import MarkedSheet.Emission.Forest
import MarkedSheet.Proofs.Sheet.Tiling

/-!
# What a computation with warnings gives

`x.Gives Q` says that `x` has a result and that `Q` holds of its warnings and of the result. One
computation after another is taken apart by `Gives.bind`. A loop over the rows of a range goes by
`gives_rows` and one over groups of rows by `gives_groups`: what holds from a row on follows from
what its step gives and from what holds after the step.
-/

namespace MarkedSheet

namespace Reported

variable {α β : Type}

/-- The computation has a result, and `Q` holds of the warnings on the way and of the result. -/
def Gives (x : Reported α) (Q : List Warning → α → Prop) : Prop :=
  ∃ a, x.result = .ok a ∧ Q x.warnings a

@[simp] theorem lift_ok (a : α) : lift (.ok a) = ⟨[], .ok a⟩ := rfl

theorem warnIf_eq (condition : Bool) (w : Warning) :
    warnIf condition w = ⟨if condition then [w] else [], .ok ()⟩ := by
  cases condition <;> rfl

theorem gives_mk {ws : List Warning} {a : α} {Q : List Warning → α → Prop} (h : Q ws a) :
    Gives ⟨ws, .ok a⟩ Q :=
  ⟨a, rfl, h⟩

theorem gives_pure {a : α} {Q : List Warning → α → Prop} (h : Q [] a) :
    Gives (pure a) Q :=
  gives_mk h

theorem Gives.mono {x : Reported α} {P Q : List Warning → α → Prop} (hx : x.Gives P)
    (h : ∀ ws a, P ws a → Q ws a) : x.Gives Q := by
  obtain ⟨a, ha, hP⟩ := hx
  exact ⟨a, ha, h _ _ hP⟩

theorem Gives.bind {x : Reported α} {f : α → Reported β} {P : List Warning → α → Prop}
    {Q : List Warning → β → Prop} (hx : x.Gives P)
    (hf : ∀ ws a, P ws a → (f a).Gives fun more b => Q (ws ++ more) b) : (x >>= f).Gives Q := by
  obtain ⟨ws, result⟩ := x
  obtain ⟨a, rfl, hP⟩ := hx
  obtain ⟨b, hb, hQ⟩ := hf _ a hP
  exact ⟨b, hb, hQ⟩

theorem Gives.eq {x : Reported α} {Q : List Warning → α → Prop} (hx : x.Gives Q) :
    ∃ ws a, x = ⟨ws, .ok a⟩ ∧ Q ws a := by
  obtain ⟨ws, result⟩ := x
  obtain ⟨a, rfl, hQ⟩ := hx
  exact ⟨ws, a, rfl, hQ⟩

/-- A loop whose steps all have results has one, and its warnings and results are those of the steps
one after another. -/
theorem gives_collect {f : α → Reported (List β)} {P : α → List Warning → List β → Prop}
    {Q : List α → List Warning → List β → Prop} (hnil : Q [] [] [])
    (hcons : ∀ a rest ws bs ws' bs', P a ws bs → Q rest ws' bs' →
      Q (a :: rest) (ws ++ ws') (bs ++ bs')) :
    ∀ as : List α, (∀ a ∈ as, (f a).Gives (P a)) → (collect f as).Gives (Q as)
  | [], _ => gives_pure hnil
  | a :: rest, h => by
    have hrest := gives_collect hnil hcons rest fun b hb => h b (List.mem_cons_of_mem _ hb)
    refine (h a List.mem_cons_self).bind fun ws bs hP => hrest.bind fun ws' bs' hQ => ?_
    refine gives_pure ?_
    rw [List.append_nil]
    exact hcons a rest ws bs ws' bs' hP hQ

theorem mem_rowRange {start stop r : Nat} (hr : r ∈ Page.rowRange start stop) :
    start ≤ r ∧ r < stop := by
  have := List.mem_range'_1.1 hr
  omega

theorem rowRange_self (stop : Nat) : Page.rowRange stop stop = [] := by
  simp [Page.rowRange]

theorem rowRange_of_lt {start stop : Nat} (h : start < stop) :
    Page.rowRange start stop = start :: Page.rowRange (start + 1) stop := by
  unfold Page.rowRange
  obtain ⟨n, hn⟩ : ∃ n, stop - start = n + 1 := ⟨stop - start - 1, by omega⟩
  rw [hn, show stop - (start + 1) = n by omega, List.range'_succ]

/-- What a loop over the rows of a range gives, from what each row gives. -/
theorem gives_rows {f : Nat → Reported (List β)} {P : Nat → List Warning → List β → Prop}
    {Q : Nat → List Warning → List β → Prop} {stop : Nat} (hnil : Q stop [] [])
    (hcons : ∀ r ws bs ws' bs', r < stop → P r ws bs → Q (r + 1) ws' bs' →
      Q r (ws ++ ws') (bs ++ bs')) {start : Nat} (hle : start ≤ stop)
    (h : ∀ r, start ≤ r → r < stop → (f r).Gives (P r)) :
    (collect f (Page.rowRange start stop)).Gives (Q start) := by
  -- `collect` goes by lists, so the rows that are left stand for the row they begin with.
  have key := gives_collect (f := f) (P := fun r ws bs => r < stop ∧ P r ws bs)
    (Q := fun rs ws bs => ∀ s, s ≤ stop → rs = Page.rowRange s stop → Q s ws bs)
    (fun s hs hrange => ?_) (fun r rest ws bs ws' bs' hP hQ s hs hrange => ?_)
    (Page.rowRange start stop) (fun r hr => ?_)
  · exact key.mono fun ws bs hQ => hQ start hle rfl
  · rcases Nat.lt_or_ge s stop with hlt | hge
    · rw [rowRange_of_lt hlt] at hrange
      simp at hrange
    · obtain rfl : s = stop := by omega
      exact hnil
  · rcases Nat.lt_or_ge s stop with hlt | hge
    · rw [rowRange_of_lt hlt] at hrange
      obtain ⟨rfl, hrest⟩ := List.cons.inj hrange
      exact hcons r ws bs ws' bs' hP.1 hP.2 (hQ (r + 1) hlt hrest)
    · obtain rfl : s = stop := by omega
      rw [rowRange_self] at hrange
      simp at hrange
  · obtain ⟨hstart, hlt⟩ := mem_rowRange hr
    exact (h r hstart hlt).mono fun ws bs hP => ⟨hlt, hP⟩

/-- What a loop over groups of rows gives, from what each group gives. -/
theorem gives_groups {f : RowGroup → Reported (List β)}
    {P : RowGroup → List Warning → List β → Prop} {Q : Nat → List Warning → List β → Prop}
    {stop : Nat} (hnil : Q stop [] [])
    (hcons : ∀ g ws bs ws' bs', g.start < g.stop → g.stop ≤ stop → P g ws bs → Q g.stop ws' bs' →
      Q g.start (ws ++ ws') (bs ++ bs')) {start : Nat} {groups : List RowGroup}
    (htiles : RowGroup.Tiles stop start groups) (h : ∀ g ∈ groups, (f g).Gives (P g)) :
    (collect f groups).Gives (Q start) := by
  refine (gives_collect (Q := fun gs ws bs => ∀ s, RowGroup.Tiles stop s gs → Q s ws bs)
    (fun s hs => ?_) (fun g rest ws bs ws' bs' hP hQ s hs => ?_) groups h).mono
    fun ws bs hQ => hQ start htiles
  · cases hs
    exact hnil
  · cases hs with
    | group hne hrest => exact hcons g ws bs ws' bs' hne hrest.le hP (hQ _ hrest)

end Reported

end MarkedSheet
