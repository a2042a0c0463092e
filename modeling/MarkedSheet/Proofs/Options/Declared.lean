import MarkedSheet.Proofs.Options.Resolved

/-!
# Values of the declared types

Every option is declared with a type of values (`Field.accepts`). Members with values of these types
give settings with values of these types (`exists_ofMembers`), and such settings are never refused
for a type: only their pattern can be refused without being told (`isReported_or_pattern`).
-/

namespace MarkedSheet

/-- Of two computations the first fails, or the second does with its result. -/
theorem error_of_bind {ε α β : Type} {x : Except ε α} {f : α → Except ε β} {e : ε}
    (h : (x >>= f) = .error e) : x = .error e ∨ ∃ a, x = .ok a ∧ f a = .error e := by
  cases x with
  | error cause => exact .inl (congrArg _ (Except.error.inj h))
  | ok a => exact .inr ⟨a, rfl, h⟩

theorem ok_of_bind {ε α β : Type} {x : Except ε α} {f : α → Except ε β} {b : β}
    (h : (x >>= f) = .ok b) : ∃ a, x = .ok a ∧ f a = .ok b := by
  cases x with
  | error cause => cases h
  | ok a => exact ⟨a, rfl, h⟩

namespace Value

/-- The value is a text. -/
def isText : Value → Bool
  | text _ => true
  | _ => false

/-- The value is a truth value. -/
def isTruth : Value → Bool
  | truth _ => true
  | _ => false

/-- The value is a whole number. -/
def isWhole : Value → Bool
  | whole _ => true
  | _ => false

/-- The value is texts with names. -/
def isTexts : Value → Bool
  | object members => members.all fun member => member.2.isText
  | _ => false

/-- The value is not there, or a text. -/
def isTextOrNull : Value → Bool
  | null | text _ => true
  | _ => false

theorem exists_text {v : Value} (h : v.isText) : ∃ t, v = .text t := by
  cases v <;> simp_all [isText]

theorem exists_whole {v : Value} (h : v.isWhole) : ∃ i, v = .whole i := by
  cases v <;> simp_all [isWhole]

end Value

/-- The value is of the type that the option is declared with. -/
def Field.accepts : Field → Value → Bool
  | sheetsIgnore | indent | extension | emptyToken | locLanguage | locTemplate => Value.isText
  | verbose | transliterate | autoSimple | noteComments | inferRootName => Value.isTruth
  | aliases | customPinyins => Value.isTexts
  | headerOffset => Value.isWhole
  | locPath => Value.isTextOrNull

theorem Field.accepts_default (f : Field) : f.accepts f.default := by
  cases f <;> rfl

namespace Settings

/-- Every option has a value of its type. -/
def Declared (s : Settings) : Prop :=
  ∀ f : Field, f.accepts (s f)

/-- The member has a value of the type of the option that its name resolves to. -/
def DeclaredMember (member : Text × Value) : Prop :=
  ∀ f : Field, Field.resolve? member.1 = some f → f.accepts member.2

instance (member : Text × Value) : Decidable (DeclaredMember member) :=
  decidable_of_iff ((Field.resolve? member.1).all fun f => f.accepts member.2) (by
    cases h : Field.resolve? member.1 <;> simp [DeclaredMember, h])

variable {s : Settings}

theorem declared_default : Declared default :=
  Field.accepts_default

theorem Declared.set (h : s.Declared) {f : Field} {value : Value} (hvalue : f.accepts value) :
    (s.set f value).Declared := by
  intro other
  unfold Settings.set
  split
  next heq => exact heq ▸ hvalue
  next => exact h other

/-- A value of the declared type can be given. The title row then gives a number again. -/
theorem exists_give {pair : Target × Value} (h : pair.1.option.accepts pair.2) :
    ∃ value, pair.1.option.accepts value ∧ ∀ s, give s pair = .ok (s.set pair.1.option value) := by
  obtain ⟨target, value⟩ := pair
  cases target with
  | field f => exact ⟨value, h, fun _ => rfl⟩
  | titleRow =>
    obtain ⟨i, rfl⟩ := Value.exists_whole h
    exact ⟨.whole (i - 2), rfl, fun _ => rfl⟩

/-- Values of the declared types can be given one after another; options that none is given to keep
theirs. -/
theorem exists_foldlM_give : ∀ {given : List (Target × Value)} {s : Settings},
    (∀ pair ∈ given, pair.1.option.accepts pair.2) → s.Declared →
      ∃ after, given.foldlM give s = .ok after ∧ after.Declared
        ∧ ∀ f, (∀ pair ∈ given, pair.1.option ≠ f) → after f = s f
  | [], s, _, hs => ⟨s, rfl, hs, fun _ _ => rfl⟩
  | pair :: rest, s, h, hs => by
    obtain ⟨hpair, hrest⟩ := List.forall_mem_cons.1 h
    obtain ⟨value, hvalue, hgive⟩ := exists_give hpair
    obtain ⟨after, hafter, hdeclared, hkept⟩ := exists_foldlM_give hrest (hs.set hvalue)
    refine ⟨after, ?_, hdeclared, fun f hf => ?_⟩
    · rw [List.foldlM_cons, hgive]
      exact hafter
    · obtain ⟨hne, hothers⟩ := List.forall_mem_cons.1 hf
      rw [hkept f hothers, Settings.set, if_neg hne.symm]

/-- Members of the declared types give settings of the declared types. -/
theorem exists_ofMembers {members : Mapping Text Value}
    (h : ∀ member ∈ members, DeclaredMember member) :
    ∃ s, (ofMembers members).result = .ok s ∧ s.Declared
      ∧ ∀ f, (∀ member ∈ members, Field.resolve? member.1 ≠ some f) → s f = f.default := by
  have hmeant : ∀ pair ∈ members.filterMap meant?, ∃ member ∈ members,
      member.2 = pair.2 ∧ Field.resolve? member.1 = some pair.1.option := by
    intro pair hpair
    obtain ⟨member, hmember, hmeant⟩ := List.mem_filterMap.1 hpair
    refine ⟨member, hmember, ?_, resolve?_of_meant? hmeant⟩
    obtain ⟨target, -, rfl⟩ := Option.map_eq_some_iff.1 hmeant
    rfl
  have haccepts : ∀ pair ∈ members.filterMap meant?, pair.1.option.accepts pair.2 := by
    intro pair hpair
    obtain ⟨member, hmember, hvalue, hresolve⟩ := hmeant pair hpair
    exact hvalue ▸ h member hmember _ hresolve
  obtain ⟨s, hs, hdeclared, hkept⟩ := exists_foldlM_give haccepts declared_default
  refine ⟨s, by rw [ofMembers, result_setAll, hs], hdeclared, fun f hf => hkept f ?_⟩
  rintro pair hpair rfl
  obtain ⟨member, hmember, -, hresolve⟩ := hmeant pair hpair
  exact hf member hmember hresolve

section Refused

variable {host : Host} {e : SettingsError}

theorem exists_pattern_of_ignored? (h : s.Declared) (he : s.ignored? host.charNamed = .error e) :
    ∃ source cause, e = .pattern source cause := by
  obtain ⟨source, hsource⟩ := Value.exists_text (h .sheetsIgnore)
  rw [ignored?, hsource] at he
  simp only at he
  split at he
  · cases he
  · exact ⟨_, _, (Except.error.inj he).symm⟩

theorem isReported_of_headerOffset? (h : s.Declared) (he : s.headerOffset? = .error e) :
    e.isReported := by
  obtain ⟨i, hi⟩ := Value.exists_whole (h .headerOffset)
  rw [headerOffset?, hi] at he
  simp only at he
  split at he
  · obtain rfl := Except.error.inj he
    rfl
  · cases he

theorem isReported_of_extension? (h : s.Declared) (he : s.extension? = .error e) :
    e.isReported := by
  obtain ⟨extension, hextension⟩ := Value.exists_text (h .extension)
  rw [extension?, hextension] at he
  simp only at he
  split at he
  · cases he
  · obtain rfl := Except.error.inj he
    rfl

/-- Settings of the declared types are refused for their pattern, or it is told why. -/
theorem isReported_or_pattern (h : s.Declared) (he : Options.ofSettings? host s = .error e) :
    e.isReported ∨ ∃ source cause, e = .pattern source cause := by
  rcases error_of_bind he with he | ⟨ignored, -, he⟩
  · exact .inr (exists_pattern_of_ignored? h he)
  rcases error_of_bind he with he | ⟨offset, -, he⟩
  · exact .inl (isReported_of_headerOffset? h he)
  rcases error_of_bind he with he | ⟨extension, -, he⟩
  · exact .inl (isReported_of_extension? h he)
  · cases he

end Refused

theorem readings_of_ofSettings? {host : Host} {o : Options}
    (ho : Options.ofSettings? host s = .ok o) : o.readings = s.texts .customPinyins := by
  obtain ⟨ignored, -, ho⟩ := ok_of_bind ho
  obtain ⟨offset, -, ho⟩ := ok_of_bind ho
  obtain ⟨extension, -, ho⟩ := ok_of_bind ho
  obtain rfl := Except.ok.inj ho
  rfl

theorem result_of_checked? {host : Host} {members : Mapping Text Value}
    (h : checked? host members = .ok s) : (ofMembers members).result = .ok s := by
  obtain ⟨read, hread, h⟩ := ok_of_bind h
  obtain ⟨-, -, h⟩ := ok_of_bind h
  obtain rfl := Except.ok.inj h
  cases hresult : (ofMembers members).result with
  | error e =>
    rw [hresult] at hread
    cases hread
  | ok other =>
    rw [hresult] at hread
    exact congrArg _ (Except.ok.inj hread)

end Settings

end MarkedSheet
