import Mathlib.Data.List.Perm.Basic
import MarkedSheet.Conversion.Progress

/-!
# What settings come down to

Settings are read from what members mean: each member that means something gives one option a value,
or fails to (`result_setAll`). So members that mean nothing do not matter, nor does the spelling of
names (`ofName?_joinCapitals`). Different options can be given in any order (`foldlM_give_perm`),
and of several values for one option the last counts (`foldlM_give_of_later`). For options files
this is put together in `checked?_unaffected`.
-/

namespace MarkedSheet

/-- The option that a name sets. The title row stands for the header offset. -/
def Target.option : Target → Field
  | field f => f
  | titleRow => .headerOffset

/-- The option that a name resolves to, if it means something. -/
def Field.resolve? (name : Text) : Option Field :=
  (Target.ofName? name).map Target.option

namespace Target

/-- A small letter of the Latin alphabet. -/
def isSmall (c : Char) : Bool :=
  'a' ≤ c && c ≤ 'z'

/-- The capital of a small letter. -/
def capitalOf (c : Char) : Char :=
  Char.ofNat (c.toNat - 32)

/-- The name with a capital for every low line and the letter after it. -/
def joinCapitals : Text → Text
  | '_' :: c :: rest => capitalOf c :: joinCapitals rest
  | c :: rest => c :: joinCapitals rest
  | [] => []

/-- What may follow a letter in a plain name: small letters, with a letter after every low line. -/
def isPlainRest : Text → Bool
  | '_' :: c :: rest => isSmall c && isPlainRest rest
  | c :: rest => isSmall c && isPlainRest rest
  | [] => true

/-- Small letters, with single low lines among them. -/
def isPlainName : Text → Bool
  | c :: rest => isSmall c && isPlainRest rest
  | [] => false

/-- The names that mean something without any capital. -/
def plainNames : List Text :=
  "key_row_number".toList
    :: (Field.all.map (·.name.toList) ++ formerNames.map (·.1.toList))

section Spelling

/-- A small letter comes back from its capital, and is its own lower case. -/
theorem isSmall_spec {c : Char} (h : isSmall c) :
    c ≠ '_' ∧ isCapital c = false ∧ Text.lower [c] = [c]
      ∧ isCapital (capitalOf c) ∧ Text.lower [capitalOf c] = [c] := by
  have hall : ∀ n < 26, Char.ofNat (97 + n) ≠ '_' ∧ isCapital (Char.ofNat (97 + n)) = false
      ∧ Text.lower [Char.ofNat (97 + n)] = [Char.ofNat (97 + n)]
      ∧ isCapital (capitalOf (Char.ofNat (97 + n)))
      ∧ Text.lower [capitalOf (Char.ofNat (97 + n))] = [Char.ofNat (97 + n)] := by
    decide
  have hbounds : 97 ≤ c.toNat ∧ c.toNat ≤ 122 := by
    simpa [isSmall, Char.le_def, UInt32.le_iff_toNat_le] using h
  have hc := hall (c.toNat - 97) (by omega)
  rwa [Nat.add_sub_cancel' hbounds.1, Char.ofNat_toNat] at hc

theorem lower_append (s t : Text) : Text.lower (s ++ t) = Text.lower s ++ Text.lower t :=
  List.flatMap_append

theorem lower_splitCapitals_rest {rest : Text} (h : isPlainRest rest) :
    Text.lower ((joinCapitals rest).flatMap fun d => if isCapital d then ['_', d] else [d])
      = rest := by
  fun_induction isPlainRest rest with
  | case1 c rest ih =>
    obtain ⟨hc, hrest⟩ := Bool.and_eq_true_iff.1 h
    obtain ⟨-, -, -, hcapital, hlower⟩ := isSmall_spec hc
    simp only [joinCapitals, List.flatMap_cons, hcapital, if_true]
    rw [lower_append, ih hrest, show ['_', capitalOf c] = ['_'] ++ [capitalOf c] from rfl,
      lower_append, hlower]
    rfl
  | case2 c rest hne ih =>
    obtain ⟨hc, hrest⟩ := Bool.and_eq_true_iff.1 h
    obtain ⟨-, hcapital, hlower, -, -⟩ := isSmall_spec hc
    rw [joinCapitals]
    · simp only [List.flatMap_cons, hcapital, Bool.false_eq_true, if_false]
      rw [lower_append, ih hrest, hlower]
      rfl
    · exact hne
  | case3 => rfl

/-- The capitals of a plain name are resolved again. -/
theorem lower_splitCapitals {name : Text} (h : isPlainName name) :
    Text.lower (splitCapitals (joinCapitals name)) = name := by
  cases name with
  | nil => simp [isPlainName] at h
  | cons c rest =>
    obtain ⟨hc, hrest⟩ := Bool.and_eq_true_iff.1 h
    obtain ⟨hne, -, hlower, -, -⟩ := isSmall_spec hc
    rw [joinCapitals]
    · rw [splitCapitals, ← List.singleton_append, lower_append, lower_splitCapitals_rest hrest,
        hlower]
      rfl
    · rintro d others rfl
      exact absurd rfl hne

theorem isSmall_or_of_isPlainRest {rest : Text} (h : isPlainRest rest) :
    ∀ c ∈ rest, isSmall c ∨ c = '_' := by
  fun_induction isPlainRest rest with
  | case1 c rest ih =>
    obtain ⟨hc, hrest⟩ := Bool.and_eq_true_iff.1 h
    exact List.forall_mem_cons.2 ⟨.inr rfl, List.forall_mem_cons.2 ⟨.inl hc, ih hrest⟩⟩
  | case2 c rest _ ih =>
    obtain ⟨hc, hrest⟩ := Bool.and_eq_true_iff.1 h
    exact List.forall_mem_cons.2 ⟨.inl hc, ih hrest⟩
  | case3 => exact fun c hc => absurd hc List.not_mem_nil

/-- Small letters and low lines are their own lower case. -/
theorem lower_eq_self : ∀ {t : Text}, (∀ c ∈ t, isSmall c ∨ c = '_') → Text.lower t = t
  | [], _ => rfl
  | c :: rest, h => by
    obtain ⟨hc, hrest⟩ := List.forall_mem_cons.1 h
    have hlower : Text.lower [c] = [c] := by
      rcases hc with hsmall | rfl
      · exact (isSmall_spec hsmall).2.2.1
      · decide
    rw [← List.singleton_append, lower_append, hlower, lower_eq_self hrest]

/-- Without capitals a name stays as it is. -/
theorem lower_splitCapitals_self {name : Text} (h : isPlainName name) :
    Text.lower (splitCapitals name) = name := by
  cases name with
  | nil => rfl
  | cons c rest =>
    obtain ⟨hc, hrest⟩ := Bool.and_eq_true_iff.1 h
    have hsmall := isSmall_or_of_isPlainRest hrest
    have hcapital : ∀ d ∈ rest, isCapital d = false := fun d hd => by
      rcases hsmall d hd with hd | rfl
      · exact (isSmall_spec hd).2.1
      · rfl
    rw [splitCapitals, List.flatMap_congr fun d hd => by
      rw [hcapital d hd, if_neg Bool.false_ne_true], List.flatMap_singleton']
    exact lower_eq_self (List.forall_mem_cons.2 ⟨.inl hc, hsmall⟩)

theorem isPlainName_of_mem : ∀ name ∈ plainNames, isPlainName name := by
  decide

/-- A name that means something without any capital means the same with capitals. -/
theorem ofName?_joinCapitals {name : Text} (h : name ∈ plainNames) :
    ofName? (joinCapitals name) = ofName? name := by
  have hplain := isPlainName_of_mem name h
  rw [ofName?, ofName?, lower_splitCapitals hplain, lower_splitCapitals_self hplain]

end Spelling

end Target

namespace Settings

/-- Members of which no two set one option. -/
def SetOnce (members : Mapping Text Value) : Prop :=
  members.Pairwise fun a b =>
    (Field.resolve? a.1).isSome → Field.resolve? b.1 ≠ Field.resolve? a.1

/-- The value of a member can be taken as what its name asks for. -/
def Converts (member : Text × Value) : Prop :=
  Target.ofName? member.1 = some .titleRow → member.2.toInt.isOk

/-- The members that mean something. -/
def meaningful (members : Mapping Text Value) : Mapping Text Value :=
  members.filter fun member => (Field.resolve? member.1).isSome

/-- The members after which none sets the same option. -/
def lastOnes : Mapping Text Value → Mapping Text Value
  | [] => []
  | member :: rest =>
    if rest.any fun later =>
        (Field.resolve? member.1).isSome && Field.resolve? later.1 = Field.resolve? member.1
    then lastOnes rest
    else member :: lastOnes rest

/-- The members with the chosen names in their other spelling. -/
def respelled (chosen : Text → Bool) (members : Mapping Text Value) : Mapping Text Value :=
  members.map fun member =>
    (if chosen member.1 then Target.joinCapitals member.1 else member.1, member.2)

/-- The settings that members give, once they are found to be in order. -/
def checked? (host : Host) (members : Mapping Text Value) : Except Failure Settings := do
  let s ← (ofMembers members).result.mapError .number
  let _ ← (Options.ofSettings? host s).mapError .settings
  return s

/-- What a member means: what it sets, and to which value. -/
def meant? (member : Text × Value) : Option (Target × Value) :=
  (Target.ofName? member.1).map fun target => (target, member.2)

/-- The settings with a value given to what a member sets. -/
def give (s : Settings) (pair : Target × Value) : Except IntegerError Settings :=
  match pair.1 with
  | .field f => .ok (s.set f pair.2)
  | .titleRow => pair.2.toInt.map fun number => s.set .headerOffset (.whole (number - 2))

section Given

variable {pair other : Target × Value}

theorem result_setAll (members : Mapping Text Value) : ∀ s : Settings,
    (setAll s members).result = (members.filterMap meant?).foldlM give s := by
  induction members with
  | nil => intro s; rfl
  | cons member rest ih =>
    intro s
    obtain ⟨name, value⟩ := member
    unfold setAll
    cases htarget : Target.ofName? name with
    | none =>
      rw [List.filterMap_cons_none (by simp [meant?, htarget])]
      exact ih s
    | some target =>
      rw [List.filterMap_cons_some (b := (target, value)) (by simp [meant?, htarget])]
      cases target with
      | field f => exact ih _
      | titleRow =>
        simp only [List.foldlM_cons, give]
        cases hnumber : value.toInt with
        | error e => rfl
        | ok number => exact ih _

/-- A member sets its option, whatever is set before, or it is the title row and fails to. -/
theorem give_cases (pair : Target × Value) :
    (∃ value, ∀ s, give s pair = .ok (s.set pair.1.option value))
    ∨ pair.1 = .titleRow ∧ ∃ e, ∀ s, give s pair = .error e := by
  obtain ⟨target, value⟩ := pair
  cases target with
  | field f => exact .inl ⟨value, fun _ => rfl⟩
  | titleRow =>
    cases hnumber : value.toInt with
    | error e => exact .inr ⟨rfl, e, fun s => by simp [give, hnumber, Except.map]⟩
    | ok number =>
      exact .inl ⟨.whole (number - 2), fun s => by simp [give, hnumber, Except.map, Target.option]⟩

theorem give_comm (h : pair.1.option ≠ other.1.option) (s : Settings) :
    (give s pair >>= fun s => give s other) = give s other >>= fun s => give s pair := by
  rcases give_cases pair with ⟨v, hpair⟩ | ⟨htitle, e, hpair⟩ <;>
    rcases give_cases other with ⟨w, hother⟩ | ⟨htitle', e', hother⟩
  · simp only [hpair, hother]
    exact congrArg Except.ok (set_set_comm s v w h)
  · simp only [hpair, hother]
    rfl
  · simp only [hpair, hother]
    rfl
  · rw [htitle, htitle'] at h
    exact absurd rfl h

/-- Values for different options can be given in any order. -/
theorem foldlM_give_perm {given after : List (Target × Value)} (h : given.Perm after) :
    given.Pairwise (fun a b => a.1.option ≠ b.1.option) →
      ∀ s, given.foldlM give s = after.foldlM give s := by
  induction h with
  | nil => exact fun _ _ => rfl
  | cons pair _ ih =>
    intro hapart s
    simp only [List.foldlM_cons]
    cases give s pair with
    | error e => rfl
    | ok s' => exact ih (List.pairwise_cons.1 hapart).2 s'
  | swap a b rest =>
    intro hapart s
    have hne : b.1.option ≠ a.1.option :=
      (List.pairwise_cons.1 hapart).1 a List.mem_cons_self
    simp only [List.foldlM_cons, ← bind_assoc, give_comm hne]
  | trans h _ ih ih' =>
    intro hapart s
    have hapart' := (h.pairwise_iff (fun {_ _} hne => Ne.symm hne)).1 hapart
    rw [ih hapart, ih' hapart']

/-- What was set before a later value for the same option does not matter. -/
theorem foldlM_give_of_later {f : Field} {value : Value} {given : List (Target × Value)} :
    ∀ {s : Settings}, (∃ later ∈ given, later.1.option = f) →
      given.foldlM give (s.set f value) = given.foldlM give s := by
  induction given with
  | nil =>
    rintro s ⟨later, hlater, -⟩
    exact absurd hlater List.not_mem_nil
  | cons pair rest ih =>
    intro s hlater
    simp only [List.foldlM_cons]
    rcases give_cases pair with ⟨v, hpair⟩ | ⟨-, e, hpair⟩
    · rw [hpair, hpair]
      by_cases hf : pair.1.option = f
      · rw [← hf, set_set_self]
      · rw [set_set_comm s value v (Ne.symm hf)]
        obtain ⟨later, hmem, hlater⟩ := hlater
        rcases List.mem_cons.1 hmem with rfl | hmem
        · exact absurd hlater hf
        · exact ih ⟨later, hmem, hlater⟩
    · rw [hpair, hpair]

end Given

section Members

variable {members other : Mapping Text Value}

theorem checked?_congr (host : Host) (h : (ofMembers other).result = (ofMembers members).result) :
    checked? host other = checked? host members := by
  rw [checked?, checked?, h]

theorem resolve?_of_meant? {member : Text × Value} {pair : Target × Value}
    (h : meant? member = some pair) : Field.resolve? member.1 = some pair.1.option := by
  obtain ⟨target, htarget, rfl⟩ := Option.map_eq_some_iff.1 h
  rw [Field.resolve?, htarget]
  rfl

theorem pairwise_of_setOnce (h : SetOnce members) :
    (members.filterMap meant?).Pairwise fun a b => a.1.option ≠ b.1.option := by
  refine List.Pairwise.filterMap meant? (fun a b hab a' ha b' hb heq => ?_) h
  have ha := resolve?_of_meant? ha
  have hb := resolve?_of_meant? hb
  exact hab (by rw [ha]; rfl) (by rw [ha, hb, heq])

theorem filterMap_meaningful (members : Mapping Text Value) :
    (meaningful members).filterMap meant? = members.filterMap meant? := by
  rw [meaningful, List.filterMap_filter]
  refine List.filterMap_congr fun member _ => ?_
  cases h : Target.ofName? member.1 with
  | none => simp [meant?, h]
  | some target => simp [Field.resolve?, h]

theorem filterMap_respelled {chosen : Text → Bool}
    (hchosen : ∀ name, chosen name → name ∈ Target.plainNames) (members : Mapping Text Value) :
    (respelled chosen members).filterMap meant? = members.filterMap meant? := by
  rw [respelled, List.filterMap_map]
  refine List.filterMap_congr fun member _ => ?_
  simp only [Function.comp, meant?]
  split
  next h => rw [Target.ofName?_joinCapitals (hchosen _ h)]
  next => rfl

theorem exists_give_of_converts {member : Text × Value} (h : Converts member) {f : Field}
    (hf : Field.resolve? member.1 = some f) : ∃ pair value, meant? member = some pair
      ∧ ∀ s, give s pair = .ok (s.set f value) := by
  obtain ⟨target, htarget, rfl⟩ := Option.map_eq_some_iff.1 hf
  refine ⟨(target, member.2), ?_⟩
  rcases give_cases (target, member.2) with ⟨value, hgive⟩ | ⟨rfl, e, hgive⟩
  · exact ⟨value, by rw [meant?, htarget]; rfl, hgive⟩
  · have hok := h htarget
    have hfail := hgive default
    cases hnumber : member.2.toInt with
    | error e => simp [hnumber, Except.isOk, Except.toBool] at hok
    | ok number => simp [give, hnumber, Except.map] at hfail

theorem result_setAll_lastOnes : ∀ {members : Mapping Text Value},
    (∀ member ∈ members, Converts member) →
      ∀ s, (setAll s (lastOnes members)).result = (setAll s members).result
  | [], _, _ => rfl
  | member :: rest, h, s => by
    obtain ⟨hmember, hrest⟩ := List.forall_mem_cons.1 h
    have ih := fun s => result_setAll_lastOnes hrest s
    simp only [result_setAll] at ih ⊢
    rw [lastOnes]
    split
    next hany =>
      obtain ⟨later, hmem, hlater⟩ := List.any_eq_true.1 hany
      obtain ⟨hsome, hsame⟩ := Bool.and_eq_true_iff.1 hlater
      obtain ⟨f, hf⟩ := Option.isSome_iff_exists.1 hsome
      obtain ⟨pair, value, hpair, hgive⟩ := exists_give_of_converts hmember hf
      rw [hf] at hsame
      obtain ⟨target, htarget, hoption⟩ := Option.map_eq_some_iff.1 (of_decide_eq_true hsame)
      have hgiven : (target, later.2) ∈ rest.filterMap meant? :=
        List.mem_filterMap.2 ⟨later, hmem, by rw [meant?, htarget]; rfl⟩
      rw [ih, List.filterMap_cons_some hpair, List.foldlM_cons, hgive]
      exact (foldlM_give_of_later ⟨_, hgiven, hoption⟩).symm
    next =>
      cases hmeant : meant? member with
      | none => rw [List.filterMap_cons_none hmeant, List.filterMap_cons_none hmeant, ih]
      | some pair =>
        rw [List.filterMap_cons_some hmeant, List.filterMap_cons_some hmeant]
        simp only [List.foldlM_cons, ih]

end Members

/-- An options file gives the settings that its members give, once they are found to be in order. -/
theorem loadSettings_eq (host : Host) (path : Path) : Work.loadSettings host path = (do
    let location ← Work.locate path
    let members ← Work.lift .optionsFile ((← get).tree.optionMembers location)
    Work.print (ofMembers members).printed
    Work.lift id (checked? host members)) := by
  have htail : ∀ members, (do
      let s ← Work.lift .number (ofMembers members).result
      let _ ← Work.lift .settings (Options.ofSettings? host s)
      return s : Work Settings) = Work.lift id (checked? host members) := by
    intro members
    unfold checked?
    cases (ofMembers members).result with
    | error e => rfl
    | ok s =>
      change (Work.lift .settings (Options.ofSettings? host s) >>= fun _ => pure s)
        = Work.lift id ((Options.ofSettings? host s).mapError .settings >>= fun _ => pure s)
      cases Options.ofSettings? host s with
      | error e => rfl
      | ok o => rfl
  unfold Work.loadSettings
  simp only [htail]

/-- Options read from members do not depend on the order of members that set different options, on
members that mean nothing, or on the spelling of names. Of several members that set one option only
the last counts, if all values can be taken as what is asked for. -/
theorem checked?_unaffected (host : Host) (members : Mapping Text Value) :
    (SetOnce members → ∀ other, other.Perm members → checked? host other = checked? host members)
    ∧ (∀ other, meaningful other = meaningful members → checked? host other = checked? host members)
    ∧ (∀ chosen : Text → Bool, (∀ name, chosen name → name ∈ Target.plainNames) →
      checked? host (respelled chosen members) = checked? host members)
    ∧ ((∀ member ∈ members, Converts member) →
      checked? host (lastOnes members) = checked? host members) := by
  refine ⟨fun honce other hperm => checked?_congr host ?_,
    fun other hsame => checked?_congr host ?_, fun chosen hchosen => checked?_congr host ?_,
    fun hconverts => checked?_congr host (result_setAll_lastOnes hconverts default)⟩
  · rw [ofMembers, ofMembers, result_setAll, result_setAll]
    exact (foldlM_give_perm (hperm.symm.filterMap meant?) (pairwise_of_setOnce honce) default).symm
  · rw [ofMembers, ofMembers, result_setAll, result_setAll, ← filterMap_meaningful other, hsame,
      filterMap_meaningful]
  · rw [ofMembers, ofMembers, result_setAll, result_setAll, filterMap_respelled hchosen]

/-- Members with names of all kinds: with capitals and without, an earlier name, the title row, and
a name that means nothing. -/
def mixedMembers : Mapping Text Value := [
  ("sheetsIgnore".toList, .text ['#']), ("key_row_number".toList, .whole 3),
  ("colour".toList, .null), ("addon_c_s_v_path".toList, .text ['t'])]

/-- Members of which two set the extension. -/
def twiceMembers : Mapping Text Value :=
  [("kvFileExt".toList, .text ['.', 'a']), ("kv_file_ext".toList, .text ['.', 'b'])]

theorem mixedMembers_checked : SetOnce mixedMembers
    ∧ checked? .usual mixedMembers.reverse = checked? .usual mixedMembers
    ∧ checked? .usual (meaningful mixedMembers) = checked? .usual mixedMembers
    ∧ checked? .usual (respelled (· ∈ Target.plainNames) mixedMembers)
      = checked? .usual mixedMembers
    ∧ (∀ member ∈ twiceMembers, Converts member)
    ∧ checked? .usual (twiceMembers.drop 1) = checked? .usual twiceMembers := by
  have honce : SetOnce mixedMembers := by
    unfold SetOnce
    decide
  have hconverts : ∀ member ∈ twiceMembers, Converts member := by
    unfold Converts
    decide
  obtain ⟨horder, hunknown, hspelling, -⟩ := checked?_unaffected .usual mixedMembers
  have hlast := (checked?_unaffected .usual twiceMembers).2.2.2 hconverts
  refine ⟨honce, horder honce _ (List.reverse_perm _), hunknown _ ?_, hspelling _ (by simp),
    hconverts, ?_⟩
  · rw [meaningful, meaningful, List.filter_filter]
    simp
  · have hdropped : lastOnes twiceMembers = twiceMembers.drop 1 := by
      rw [twiceMembers, lastOnes, if_pos (by decide)]
      rfl
    rw [hdropped] at hlast
    exact hlast

end Settings

end MarkedSheet
