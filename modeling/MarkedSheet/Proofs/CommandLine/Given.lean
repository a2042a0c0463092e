import MarkedSheet.CommandLine.Command
import MarkedSheet.Proofs.Options.Declared

/-!
# What arguments give

An option of the command line has a value of the kind that it takes, or the two dashes
(`suits_of_ofList?`). So arguments that give no dashes for a value leave settings of the declared
types as they are in this (`declared_over`), and the options are refused for the pattern, or it is
told why (`isReported_or_pattern_of_options?`).
-/

namespace MarkedSheet

theorem Mapping.mem_of_mem_set {κ ν : Type} [DecidableEq κ] {m : Mapping κ ν} {key : κ} {value : ν}
    {pair : κ × ν} (h : pair ∈ Mapping.set m key value) : pair = (key, value) ∨ pair ∈ m := by
  induction m with
  | nil => exact .inl (List.mem_singleton.1 h)
  | cons first rest ih =>
    rw [Mapping.set] at h
    split at h
    next hkey =>
      rcases List.mem_cons.1 h with rfl | h
      · exact .inl (by rw [hkey])
      · exact .inr (List.mem_cons_of_mem _ h)
    · rcases List.mem_cons.1 h with rfl | h
      · exact .inr List.mem_cons_self
      · exact (ih h).imp_right (List.mem_cons_of_mem _)

namespace CommandLine

/-- The value is of the kind that the option takes. -/
def suits (s : Switch) (value : Value) : Bool :=
  if s = .headerOffset then value.isWhole else !s.takesValue || value.isText

namespace Arguments

/-- Every option has a value of the kind that it takes, or the two dashes. -/
def Suits (a : Arguments) : Prop :=
  ∀ pair ∈ a.given, suits pair.1 pair.2 ∨ pair.2 = .list []

variable {a b : Arguments} {s : Switch}

theorem Suits.set (h : a.Suits) {value : Value} (hvalue : suits s value ∨ value = .list []) :
    (a.set s value).Suits := by
  intro pair hpair
  rcases Mapping.mem_of_mem_set hpair with rfl | hpair
  · exact hvalue
  · exact h pair hpair

theorem Suits.setText (h : a.Suits) {value : Text} (hset : a.setText s value = .ok b) :
    b.Suits := by
  unfold Arguments.setText at hset
  split at hset
  · obtain rfl := Except.ok.inj hset
    exact h.set (.inr rfl)
  · split at hset
    next hoffset =>
      split at hset
      next i _ =>
        obtain rfl := Except.ok.inj hset
        exact h.set (.inl (by rw [suits, if_pos hoffset]; rfl))
      next => cases hset
    next hoffset =>
      obtain rfl := Except.ok.inj hset
      exact h.set (.inl (by rw [suits, if_neg hoffset]; exact Bool.or_true _))

theorem Suits.setFlag (h : a.Suits) (hflag : ¬ s.takesValue) {joined : Bool} {value? : Option Text}
    (hset : a.setFlag s joined value? = .ok b) : b.Suits := by
  have htruth : suits s (.truth true) := by
    have hoffset : s ≠ .headerOffset := by
      rintro rfl
      exact hflag rfl
    rw [suits, if_neg hoffset, eq_false_of_ne_true hflag]
    rfl
  cases value? with
  | none =>
    obtain rfl := Except.ok.inj hset
    exact h.set (.inl htruth)
  | some value =>
    rw [Arguments.setFlag] at hset
    generalize (if joined then value.dropWhile (· = 'h') else value) = more at hset
    split at hset
    · obtain rfl := Except.ok.inj hset
      exact h.set (.inl htruth)
    · cases hset

theorem Suits.take (h : a.Suits) (chunk : List Text) : (a.take chunk).Suits := by
  unfold Arguments.take
  split
  · exact h
  · split
    · exact h
    · exact h

theorem Suits.finish (h : a.Suits) (chunk dashed : List Text) : (a.finish chunk dashed).Suits := by
  unfold Arguments.finish
  simp only
  split
  · exact h
  · exact h

end Arguments

/-- What is taken from words suits the options. -/
theorem suits_of_consume {a b : Arguments} {chunk : List Text} {words : List Placed}
    (h : consume a chunk words = .ok b) (ha : a.Suits) : b.Suits := by
  fun_induction consume a chunk words with
  | case1 a chunk =>
    obtain rfl := Except.ok.inj h
    exact ha.finish _ _
  | case2 a chunk argument rest ih => exact ih h ha
  | case3 a chunk argument rest =>
    obtain rfl := Except.ok.inj h
    exact ha.finish _ _
  | case4 a chunk argument rest taken ih => exact ih h (ha.take chunk)
  | case5 a chunk argument s joined taken _ value rest ih
  | case6 a chunk argument s joined taken _ value rest ih =>
    obtain ⟨next, hset, h⟩ := ok_of_bind h
    exact ih next h ((ha.take chunk).setText hset)
  | case7 => cases h
  | case8 a chunk argument s joined value? rest taken hflag ih =>
    obtain ⟨next, hset, h⟩ := ok_of_bind h
    have hnext := (ha.take chunk).setFlag hflag hset
    split at h
    · obtain rfl := Except.ok.inj h
      exact hnext
    · exact ih next h hnext

theorem suits_of_ofList? {arguments : List Text} {a : Arguments}
    (h : Arguments.ofList? arguments = .ok a) : a.Suits := by
  obtain ⟨words, -, h⟩ := ok_of_bind h
  obtain ⟨taken, hconsume, h⟩ := ok_of_bind h
  have htaken : taken.Suits :=
    suits_of_consume hconsume fun _ hpair => absurd hpair List.not_mem_nil
  split at h
  · obtain rfl := Except.ok.inj h
    exact htaken
  · split at h
    · cases h
    · split at h
      · obtain rfl := Except.ok.inj h
        exact htaken
      · cases h

/-- A value of the kind that an option of the command line takes is one of the type that its setting
is declared with. No such option sets readings. -/
theorem accepts_of_settingOf {switch : Switch} {value : Value} (hsuits : suits switch value)
    {pair : Field × Value} (h : settingOf switch value = some pair) :
    pair.1.accepts pair.2 ∧ pair.1 ≠ .customPinyins := by
  cases switch <;> simp only [settingOf, Option.some.injEq, reduceCtorEq] at h
  case verbose | transliterate | noSimple | noteComments =>
    subst h
    exact ⟨rfl, by decide⟩
  case indent =>
    obtain ⟨t, rfl⟩ := Value.exists_text hsuits
    split at h <;> obtain rfl := Option.some.inj h <;> exact ⟨rfl, by simp⟩
  case locPath =>
    obtain ⟨t, rfl⟩ := Value.exists_text hsuits
    subst h
    exact ⟨rfl, by simp⟩
  all_goals
    subst h
    exact ⟨hsuits, by simp⟩

namespace Arguments

/-- No option has the two dashes for a value. -/
def WithoutDashes (a : Arguments) : Prop :=
  ∀ pair ∈ a.given, pair.2 ≠ .list []

/-- The members of the options file that arguments name, if it can be read. -/
def members? (a : Arguments) (tree : FileTree) : Option (Mapping Text Value) :=
  let config := a.text .config
  if config.isEmpty then some []
  else (tree.locate (.ofText config)).toOption.bind fun location =>
    (tree.optionMembers location).toOption

/-- The options that arguments give over members of an options file. -/
def options? (host : Host) (a : Arguments) (members : Mapping Text Value) :
    Except Failure Options := do
  let base ← Settings.checked? host members
  (Options.ofSettings? host (a.over base)).mapError .settings

section Declared

variable {a : Arguments} {s : Settings}

theorem declared_foldl {pairs : List (Field × Value)} : ∀ {s : Settings},
    (∀ pair ∈ pairs, pair.1.accepts pair.2 ∧ pair.1 ≠ .customPinyins) → s.Declared →
      (pairs.foldl (fun s pair => s.set pair.1 pair.2) s).Declared
        ∧ pairs.foldl (fun s pair => s.set pair.1 pair.2) s .customPinyins = s .customPinyins := by
  induction pairs with
  | nil => exact fun _ hs => ⟨hs, rfl⟩
  | cons pair rest ih =>
    intro s h hs
    obtain ⟨⟨haccepts, hne⟩, hrest⟩ := List.forall_mem_cons.1 h
    obtain ⟨hdeclared, hkept⟩ := ih hrest (hs.set haccepts)
    refine ⟨hdeclared, hkept.trans ?_⟩
    rw [Settings.set, if_neg hne.symm]

/-- Arguments leave settings of the declared types so, and leave the readings. -/
theorem declared_over (hsuits : a.Suits) (hdashes : a.WithoutDashes) (hs : s.Declared) :
    (a.over s).Declared ∧ a.over s .customPinyins = s .customPinyins := by
  refine declared_foldl (fun pair hpair => ?_) hs
  obtain ⟨given, hgiven, hsetting⟩ := List.mem_filterMap.1 hpair
  exact accepts_of_settingOf ((hsuits given hgiven).resolve_right (hdashes given hgiven)) hsetting

variable {host : Host} {members : Mapping Text Value} (hsuits : a.Suits) (hdashes : a.WithoutDashes)
  (hmembers : ∀ member ∈ members, Settings.DeclaredMember member)

include hsuits hdashes hmembers

/-- Options from members of the declared types are refused for a pattern, or it is told why. -/
theorem isReported_or_pattern_of_options? {e : Failure} (h : a.options? host members = .error e) :
    e.isReported ∨ ∃ source cause, e = .settings (.pattern source cause) := by
  obtain ⟨s, hs, hdeclared, -⟩ := Settings.exists_ofMembers hmembers
  have hrefused : ∀ {s : Settings}, s.Declared →
      (Options.ofSettings? host s).mapError Failure.settings = .error e →
        e.isReported ∨ ∃ source cause, e = .settings (.pattern source cause) := by
    intro s hdeclared he
    cases hoptions : Options.ofSettings? host s with
    | ok o =>
      rw [hoptions] at he
      cases he
    | error cause =>
      rw [hoptions] at he
      obtain rfl := Except.error.inj he
      refine (Settings.isReported_or_pattern hdeclared hoptions).imp (fun htold => htold) ?_
      rintro ⟨source, cause, rfl⟩
      exact ⟨source, cause, rfl⟩
  rcases error_of_bind h with hbase | ⟨base, hbase, hover⟩
  · rw [Settings.checked?, hs] at hbase
    rcases error_of_bind hbase with hnumber | ⟨read, hread, hsettings⟩
    · cases hnumber
    · obtain rfl := Except.ok.inj hread
      rcases error_of_bind hsettings with hsettings | ⟨-, -, hnone⟩
      · exact hrefused hdeclared hsettings
      · cases hnone
  · obtain rfl := Except.ok.inj (hs.symm.trans (Settings.result_of_checked? hbase))
    exact hrefused (declared_over hsuits hdashes hdeclared).1 hover

/-- Without readings in the options file there are none in the options. -/
theorem readings_of_options? {o : Options} (h : a.options? host members = .ok o)
    (hreadings : ∀ member ∈ members, Field.resolve? member.1 ≠ some .customPinyins) :
    o.readings = [] := by
  obtain ⟨s, hs, hdeclared, hkept⟩ := Settings.exists_ofMembers hmembers
  obtain ⟨base, hbase, hover⟩ := ok_of_bind h
  obtain rfl := Except.ok.inj (hs.symm.trans (Settings.result_of_checked? hbase))
  cases hoptions : Options.ofSettings? host (a.over s) with
  | error cause =>
    rw [hoptions] at hover
    cases hover
  | ok options =>
    rw [hoptions] at hover
    obtain rfl := Except.ok.inj hover
    rw [Settings.readings_of_ofSettings? hoptions, Settings.texts,
      (declared_over hsuits hdashes hdeclared).2, hkept _ hreadings]
    rfl

end Declared

end Arguments

end CommandLine

end MarkedSheet
