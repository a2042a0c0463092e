import Mathlib.Data.Nat.Init
import MarkedSheet.Pattern.Basic

/-!
# Rounds of a repetition

A pattern goes on only at places from where it began up to the end of the text (`forward_cover`). A
round that has not moved is the last, so a repetition needs no more rounds than there are characters
left, and one. To allow it more changes nothing (`cover_repeated`), whether it takes as many as it
can, as few as it can, or all once and for all.
-/

namespace MarkedSheet

namespace Pattern

/-- A way to cover a piece and go on. -/
abbrev Way := Spot → Next → Option Spot

/-- The spot lies between another and the end of the text. -/
def Ahead (t : Text) (s s' : Spot) : Prop :=
  s.place ≤ s'.place ∧ s'.place ≤ t.length

/-- Where it begins in the text, the way goes on only at spots ahead: one of them leads to what it
comes to, and nothing else counts of what comes next. -/
structure Forward (t : Text) (way : Way) : Prop where
  goes : ∀ {s next r}, s.place ≤ t.length → way s next = some r →
    ∃ s', Ahead t s s' ∧ next s' = some r
  congr : ∀ {s next other}, s.place ≤ t.length → (∀ s', Ahead t s s' → next s' = other s') →
    way s next = way s other

section Ways

variable {t : Text} {a b : Way}

theorem Ahead.refl {s : Spot} (h : s.place ≤ t.length) : Ahead t s s :=
  ⟨Nat.le_refl _, h⟩

theorem Ahead.trans {s s' s'' : Spot} (h : Ahead t s s') (h' : Ahead t s' s'') : Ahead t s s'' :=
  ⟨Nat.le_trans h.1 h'.1, h'.2⟩

/-- A way that goes on at one spot, if at all. -/
theorem Forward.of_bind {way : Way} (next? : Spot → Option Spot)
    (heq : ∀ s next, way s next = (next? s).bind next)
    (h : ∀ s s', s.place ≤ t.length → next? s = some s' → Ahead t s s') : Forward t way where
  goes hs hr := by
    rw [heq] at hr
    obtain ⟨s', hs', hr⟩ := Option.bind_eq_some_iff.1 hr
    exact ⟨s', h _ _ hs hs', hr⟩
  congr {s _ _} hs hsame := by
    rw [heq, heq]
    cases hplace : next? s with
    | none => rfl
    | some s' => exact hsame s' (h s s' hs hplace)

/-- A way that goes on where it is. -/
theorem Forward.stay {way : Way} (next? : Spot → Option Spot)
    (heq : ∀ s next, way s next = (next? s).bind next)
    (h : ∀ s s', next? s = some s' → s'.place = s.place) : Forward t way :=
  .of_bind next? heq fun s s' hs hs' => by
    have hplace := h s s' hs'
    exact ⟨by omega, by omega⟩

theorem Forward.skip : Forward t fun s next => next s :=
  .stay some (fun _ _ => rfl) fun _ _ h => by rw [Option.some.inj h]

theorem Forward.comp (ha : Forward t a) (hb : Forward t b) :
    Forward t fun s next => a s fun s' => b s' next where
  goes hs hr := by
    obtain ⟨s', hahead, hr⟩ := ha.goes hs hr
    obtain ⟨s'', hahead', hr⟩ := hb.goes hahead.2 hr
    exact ⟨s'', hahead.trans hahead', hr⟩
  congr hs hsame :=
    ha.congr hs fun _ hahead => hb.congr hahead.2 fun _ h => hsame _ (hahead.trans h)

theorem Forward.or (ha : Forward t a) (hb : Forward t b) :
    Forward t fun s next => orNext (a · next) (b · next) s where
  goes {s next r} hs hr := by
    unfold orNext at hr
    split at hr
    next found hfound =>
      obtain rfl := Option.some.inj hr
      exact ha.goes hs hfound
    next => exact hb.goes hs hr
  congr hs hsame := by
    simp only [orNext, ha.congr hs hsame, hb.congr hs hsame]

/-- The first of the spots that a way comes to is taken once and for all. -/
theorem Forward.settled (ha : Forward t a) : Forward t fun s next => (a s some).bind next :=
  .of_bind (a · some) (fun _ _ => rfl) fun s s' hs hs' => by
    obtain ⟨found, hahead, hfound⟩ := ha.goes hs hs'
    obtain rfl := Option.some.inj hfound
    exact hahead

theorem Forward.times (ha : Forward t a) : ∀ n, Forward t fun s next => times a n next s
  | 0 => .skip
  | n + 1 => ha.comp (ha.times n)

theorem Forward.moreTimes (ha : Forward t a) (isLazy : Bool) : ∀ n before?,
    Forward t fun s next => moreTimes a isLazy next n before? s
  | 0, _ => .skip
  | n + 1, before? => by
    have hfurther : Forward t fun s next => if before? = some s.place then none
        else a s (Pattern.moreTimes a isLazy next n (some s.place)) := by
      refine ⟨fun {s next r} hs hr => ?_, fun {s next other} hs hsame => ?_⟩
      · split at hr
        · cases hr
        · obtain ⟨s', hahead, hr⟩ := ha.goes hs hr
          obtain ⟨s'', hahead', hr⟩ := (ha.moreTimes isLazy n (some s.place)).goes hahead.2 hr
          exact ⟨s'', hahead.trans hahead', hr⟩
      · split
        · rfl
        · exact ha.congr hs fun s' hahead =>
            (ha.moreTimes isLazy n (some s.place)).congr hahead.2 fun _ h =>
              hsame _ (hahead.trans h)
    cases isLazy with
    | true => exact Forward.skip.or hfurther
    | false => exact hfurther.or .skip

theorem ahead_settledTimes (ha : Forward t a) : ∀ n {s s' : Spot}, s.place ≤ t.length →
    settledTimes a n s = some s' → Ahead t s s'
  | 0, s, s', hs, h => by
    obtain rfl := Option.some.inj h
    exact .refl hs
  | n + 1, s, s', hs, h => by
    obtain ⟨first, hfirst, h⟩ := Option.bind_eq_some_iff.1 h
    obtain ⟨found, hahead, hfound⟩ := ha.goes hs hfirst
    obtain rfl := Option.some.inj hfound
    exact hahead.trans (ahead_settledTimes ha n hahead.2 h)

theorem ahead_allTimes (ha : Forward t a) : ∀ n {s : Spot}, s.place ≤ t.length →
    Ahead t s (allTimes a n s)
  | 0, s, hs => .refl hs
  | n + 1, s, hs => by
    rw [allTimes]
    split
    next first hfirst =>
      obtain ⟨found, hahead, hfound⟩ := ha.goes hs hfirst
      obtain rfl := Option.some.inj hfound
      split
      · exact hahead
      · exact hahead.trans (ahead_allTimes ha n hahead.2)
    next => exact .refl hs

end Ways

section Enough

variable {t : Text} {a : Way} (ha : Forward t a)

/-- After a round that has not moved there is no further one. -/
theorem moreTimes_of_before (isLazy : Bool) (next : Next) (s : Spot) :
    ∀ n, moreTimes a isLazy next n (some s.place) s = next s
  | 0 => rfl
  | n + 1 => by
    cases isLazy <;> simp only [moreTimes, orNext, if_true, Bool.false_eq_true, if_false]
    cases next s <;> rfl

include ha

/-- One more round makes no difference if there are more than characters are left. -/
theorem moreTimes_succ (isLazy : Bool) (next : Next) :
    ∀ (n : Nat) (before? : Option Nat) {s : Spot}, s.place ≤ t.length → t.length - s.place < n →
      moreTimes a isLazy next (n + 1) before? s = moreTimes a isLazy next n before? s
  | n + 1, before?, s, hs, hn => by
    have hround : a s (moreTimes a isLazy next (n + 1) (some s.place))
        = a s (moreTimes a isLazy next n (some s.place)) := by
      refine ha.congr hs fun s' hahead => ?_
      by_cases hmoved : s'.place = s.place
      · rw [← hmoved, moreTimes_of_before, moreTimes_of_before]
      · have hfurther : s.place < s'.place := Nat.lt_of_le_of_ne hahead.1 (Ne.symm hmoved)
        exact moreTimes_succ isLazy next n _ hahead.2 (by have := hahead.2; omega)
    rw [moreTimes, moreTimes]
    cases isLazy <;> simp only [orNext, hround, if_true, Bool.false_eq_true, if_false]

theorem moreTimes_eq (isLazy : Bool) (next : Next) {s : Spot} (hs : s.place ≤ t.length) {n : Nat}
    (hn : t.length < n) :
    moreTimes a isLazy next n none s = moreTimes a isLazy next (t.length + 1) none s := by
  induction n, hn using Nat.le_induction with
  | base => rfl
  | succ n hn ih => rw [moreTimes_succ ha isLazy next n none hs (by omega), ih]

theorem allTimes_succ : ∀ (n : Nat) {s : Spot}, s.place ≤ t.length → t.length - s.place < n →
    allTimes a (n + 1) s = allTimes a n s
  | n + 1, s, hs, hn => by
    rw [allTimes, allTimes]
    cases hfirst : a s some with
    | none => rfl
    | some s' =>
      obtain ⟨found, hahead, hfound⟩ := ha.goes hs hfirst
      obtain rfl := Option.some.inj hfound
      by_cases hmoved : found.place = s.place
      · simp only [hmoved, if_true]
      · have hfurther : s.place < found.place := Nat.lt_of_le_of_ne hahead.1 (Ne.symm hmoved)
        have hfound := hahead.2
        simp only [hmoved, if_false]
        exact allTimes_succ n hfound (by omega)

theorem allTimes_eq {s : Spot} (hs : s.place ≤ t.length) {n : Nat} (hn : t.length < n) :
    allTimes a n s = allTimes a (t.length + 1) s := by
  induction n, hn using Nat.le_induction with
  | base => rfl
  | succ n hn ih => rw [allTimes_succ ha n hs (by omega), ih]

end Enough

section Cover

variable (t : Text) (flags : List PatternFlag)

/-- A way that takes one character. -/
theorem forward_char {way : Way} (takes : Char → Bool)
    (heq : ∀ s next, way s next = match t[s.place]? with
      | some c => if takes c then next { s with place := s.place + 1 } else none
      | none => none) : Forward t way := by
  refine .of_bind (fun s => (t[s.place]?).bind fun c =>
    if takes c then some { s with place := s.place + 1 } else none)
    (fun s next => ?_) fun s s' hs h => ?_
  · rw [heq]
    cases t[s.place]? with
    | none => rfl
    | some c =>
      simp only [Option.bind_some]
      split <;> rfl
  · obtain ⟨c, hc, h⟩ := Option.bind_eq_some_iff.1 h
    have hlt := (List.getElem?_eq_some_iff.1 hc).1
    split at h
    · obtain rfl := Option.some.inj h
      exact ⟨Nat.le_succ _, hlt⟩
    · cases h

/-- The piece of a group fits into what is left of the text. -/
theorem forward_again (n : Nat) : Forward t (cover t flags (.again n)) := by
  refine .of_bind (fun s => (s.piece? t n).bind fun piece =>
    if readsAlike flags ((t.drop s.place).take piece.length) piece then
      some { s with place := s.place + piece.length } else none)
    (fun s next => ?_) fun s s' hs h => ?_
  · rw [cover]
    cases s.piece? t n with
    | none => rfl
    | some piece =>
      simp only [Option.bind_some]
      split <;> rfl
  · obtain ⟨piece, -, h⟩ := Option.bind_eq_some_iff.1 h
    split at h
    next halike =>
      obtain rfl := Option.some.inj h
      have hlength := of_decide_eq_true (Bool.and_eq_true_iff.1 halike).1
      rw [List.length_take, List.length_drop] at hlength
      exact ⟨Nat.le_add_right _ _, by simp only; omega⟩
    next => cases h

variable {flags} {p : Pattern}

theorem forward_look (behind? : Option Width) (negative : Bool) :
    Forward t (cover t flags (.look behind? negative p)) := by
  refine .stay (fun s => cover t flags (.look behind? negative p) s some) (fun s next => ?_)
    fun s s' h => ?_
  · cases behind? <;> rw [cover, cover] <;> split <;> cases negative <;> rfl
  · cases behind? <;> rw [cover] at h <;> split at h <;> cases negative
    all_goals cases h
    all_goals rfl

theorem forward_group (n : Nat) (h : Forward t (cover t flags p)) :
    Forward t (cover t flags (.group n p)) := by
  have hopen : Forward t fun s next => next { s with begun := s.begun.set n s.place } :=
    .stay (fun s => some { s with begun := s.begun.set n s.place }) (fun _ _ => rfl)
      fun _ _ h => by rw [← Option.some.inj h]
  have hclose : Forward t fun s next => next { s with ended := s.ended.set n s.place } :=
    .stay (fun s => some { s with ended := s.ended.set n s.place }) (fun _ _ => rfl)
      fun _ _ h => by rw [← Option.some.inj h]
  exact hopen.comp (h.comp hclose)

theorem forward_repeated (least : Nat) (most? : Option Nat) (mode : RepeatMode)
    (h : Forward t (cover t flags p)) :
    Forward t (cover t flags (.repeated p least most? mode)) := by
  cases mode with
  | greedy => exact (h.times least).comp (h.moreTimes false _ none)
  | lazy => exact (h.times least).comp (h.moreTimes true _ none)
  | possessive =>
    refine .of_bind (fun s => (settledTimes (cover t flags p) least s).map (allTimes _ _))
      (fun s next => (Option.bind_map ..).symm) fun s s' hs hmapped => ?_
    obtain ⟨first, hfirst, rfl⟩ := Option.map_eq_some_iff.1 hmapped
    have hahead := ahead_settledTimes h least hs hfirst
    exact hahead.trans (ahead_allTimes h _ hahead.2)

/-- A pattern goes on only at spots ahead. -/
theorem forward_cover (p : Pattern) : ∀ flags, Forward t (cover t flags p) := by
  induction p with
  | nothing => exact fun _ => .skip
  | one others set =>
    exact fun flags => forward_char t (fun c => inSet flags set c != others) fun _ _ => rfl
  | any =>
    exact fun flags => forward_char t (fun c => c != '\n' || flags.contains .dotAll) fun _ _ => rfl
  | edge e =>
    exact fun flags => .stay (fun s => if atEdge flags t s.place e then some s else none)
      (fun s next => by rw [cover]; split <;> rfl) fun s s' h => by
        split at h
        · rw [Option.some.inj h]
        · cases h
  | sequence p q ihp ihq => exact fun flags => (ihp flags).comp (ihq flags)
  | either p q ihp ihq => exact fun flags => (ihp flags).or (ihq flags)
  | flagged set unset p ih => exact fun flags => ih _
  | group n p ih => exact fun flags => forward_group t n (ih flags)
  | atomic p ih => exact fun flags => (ih flags).settled
  | look behind? negative p _ => exact fun _ => forward_look t behind? negative
  | again n => exact fun flags => forward_again t flags n
  | choice n yes no ihyes ihno =>
    refine fun flags => ⟨fun {s next r} hs hr => ?_, fun {s next other} hs hsame => ?_⟩
    · rw [cover] at hr
      split at hr
      · exact (ihyes flags).goes hs hr
      · exact (ihno flags).goes hs hr
    · rw [cover, cover, (ihyes flags).congr hs hsame, (ihno flags).congr hs hsame]
  | repeated p least most? mode ih =>
    exact fun flags => forward_repeated t least most? mode (ih flags)

end Cover

/-- As many rounds as a repetition has left after those that are needed; without a greatest number
these are any that are more than the characters of the text. -/
def RoundsLeft (t : Text) (least n : Nat) : Option Nat → Prop
  | none => t.length < n
  | some most => n = most - least

/-- The rounds that are needed, and then at most `n` more: as many as go on, as few as go on, or all
that there are. -/
def rounds (way : Way) (least n : Nat) (next : Next) : RepeatMode → Next
  | .greedy => times way least (moreTimes way false next n none)
  | .lazy => times way least (moreTimes way true next n none)
  | .possessive => fun s => (settledTimes way least s).bind fun s => next (allTimes way n s)

/-- A repetition has the rounds that are needed, and then all that are left for it. -/
theorem cover_repeated {t : Text} {flags : List PatternFlag} {p : Pattern} {least n : Nat}
    {most? : Option Nat} (hn : RoundsLeft t least n most?) (mode : RepeatMode) {s : Spot}
    (hs : s.place ≤ t.length) (next : Next) :
    cover t flags (.repeated p least most? mode) s next
      = rounds (cover t flags p) least n next mode s := by
  have hp := forward_cover t p flags
  obtain ⟨m, hcover, hm⟩ : ∃ m, cover t flags (.repeated p least most? mode) s next
        = rounds (cover t flags p) least m next mode s
      ∧ (m = n ∨ t.length < m ∧ t.length < n) := by
    cases most? with
    | none => exact ⟨t.length + 2, by cases mode <;> rfl, .inr ⟨by omega, hn⟩⟩
    | some most =>
      obtain rfl : n = most - least := hn
      exact ⟨min (most - least) (t.length + 2), by cases mode <;> rfl, by omega⟩
  have hmore : ∀ isLazy s', Ahead t s s' →
      moreTimes (cover t flags p) isLazy next m none s'
        = moreTimes (cover t flags p) isLazy next n none s' := by
    intro isLazy s' hahead
    rcases hm with rfl | ⟨hm, hn⟩
    · rfl
    · rw [moreTimes_eq hp isLazy next hahead.2 hm, moreTimes_eq hp isLazy next hahead.2 hn]
  rw [hcover]
  cases mode with
  | greedy => exact (hp.times least).congr hs (hmore false)
  | lazy => exact (hp.times least).congr hs (hmore true)
  | possessive =>
    simp only [rounds]
    cases hsettled : settledTimes (cover t flags p) least s with
    | none => rfl
    | some s' =>
      have hahead := ahead_settledTimes hp least hs hsettled
      rcases hm with rfl | ⟨hm, hn⟩
      · rfl
      · simp only [Option.bind_some, allTimes_eq hp hahead.2 hm, allTimes_eq hp hahead.2 hn]

end Pattern

end MarkedSheet
