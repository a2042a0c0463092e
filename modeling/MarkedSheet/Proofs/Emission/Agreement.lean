import MarkedSheet.Proofs.Emission.Gives

/-!
# Two computations that agree

Two computations with warnings agree (`Reported.Agree`) if both have a result, the results are
related, and the warnings of the second are those of the first after a change. Computations that
agree step by step agree (`Agree.bind`), and so do loops (`agree_collect`, `agree_rows`).
-/

namespace MarkedSheet

namespace Reported

variable {α β γ δ : Type} {w : Warning → Warning}

/-- Both computations have a result, `R` holds of the two, and the warnings of the second are those
of the first, changed by `w`. -/
def Agree (w : Warning → Warning) (R : α → β → Prop) (x : Reported α) (y : Reported β) : Prop :=
  ∃ a b, x.result = .ok a ∧ y.result = .ok b ∧ R a b ∧ y.warnings = x.warnings.map w

theorem lift_ok_bind (a : α) (f : α → Reported β) : lift (.ok a) >>= f = f a := rfl

theorem agree_pure {R : α → β → Prop} {a : α} {b : β} (h : R a b) :
    Agree w R (pure a) (pure b) :=
  ⟨a, b, rfl, rfl, h, rfl⟩

theorem agree_warnAll (ws : List Warning) :
    Agree w Eq (warnAll ws) (warnAll (ws.map w)) :=
  ⟨(), (), rfl, rfl, rfl, rfl⟩

theorem agree_warn (v : Warning) : Agree w Eq (warn v) (warn (w v)) :=
  ⟨(), (), rfl, rfl, rfl, rfl⟩

theorem agree_warnIf (condition : Bool) (v : Warning) :
    Agree w Eq (warnIf condition v) (warnIf condition (w v)) := by
  cases condition with
  | true => exact agree_warn v
  | false => exact agree_pure rfl

/-- Computations that agree can be gone on with by computations that agree on related results. -/
theorem Agree.bind {R : α → β → Prop} {S : γ → δ → Prop} {x : Reported α} {y : Reported β}
    (h : Agree w R x y) {f : α → Reported γ} {g : β → Reported δ}
    (hfg : ∀ a b, R a b → Agree w S (f a) (g b)) : Agree w S (x >>= f) (y >>= g) := by
  obtain ⟨ws, _⟩ := x
  obtain ⟨_, _⟩ := y
  obtain ⟨a, b, rfl, rfl, hab, rfl⟩ := h
  obtain ⟨c, d, hc, hd, hcd, hws⟩ := hfg a b hab
  exact ⟨c, d, hc, hd, hcd, by simp [hws]⟩

theorem Agree.eq {R : α → β → Prop} {x : Reported α} {y : Reported β} (h : Agree w R x y) :
    ∃ ws a b, x = ⟨ws, .ok a⟩ ∧ y = ⟨ws.map w, .ok b⟩ ∧ R a b := by
  obtain ⟨ws, _⟩ := x
  obtain ⟨_, _⟩ := y
  obtain ⟨a, b, rfl, rfl, hab, rfl⟩ := h
  exact ⟨ws, a, b, rfl, rfl, hab⟩

section Loops

variable {R : List γ → List δ → Prop} (hnil : R [] [])
  (happend : ∀ {s s' t t'}, R s s' → R t t' → R (s ++ t) (s' ++ t'))

include hnil happend

/-- A loop over a list and one over what its members correspond to. -/
theorem agree_collect {m : α → β} {f : α → Reported (List γ)} {g : β → Reported (List δ)} :
    ∀ as : List α, (∀ a ∈ as, Agree w R (f a) (g (m a))) →
      Agree w R (collect f as) (collect g (as.map m))
  | [], _ => agree_pure hnil
  | a :: rest, h => by
    have hrest := agree_collect rest fun b hb => h b (List.mem_cons_of_mem _ hb)
    refine (h a List.mem_cons_self).bind fun _ _ hfirst => hrest.bind fun _ _ hothers => ?_
    exact agree_pure (happend hfirst hothers)

/-- A loop over rows and one over the rows `k` places further down. -/
theorem agree_rows {k start stop : Nat} {f : Nat → Reported (List γ)} {g : Nat → Reported (List δ)}
    (h : ∀ r, start ≤ r → r < stop → Agree w R (f r) (g (r + k))) :
    Agree w R (collect f (Page.rowRange start stop))
      (collect g (Page.rowRange (start + k) (stop + k))) := by
  have hrange : Page.rowRange (start + k) (stop + k) = (Page.rowRange start stop).map (k + ·) := by
    rw [Page.rowRange, Page.rowRange, List.map_add_range', Nat.add_sub_add_right,
      Nat.add_comm start]
  rw [hrange]
  refine agree_collect hnil happend _ fun r hr => ?_
  obtain ⟨hstart, hlt⟩ := mem_rowRange hr
  rw [Nat.add_comm]
  exact h r hstart hlt

end Loops

end Reported

end MarkedSheet
