import MarkedSheet.Proofs.Header.Layout

/-!
# Brackets matched by a stack

Where the brackets of a title row are properly nested, a stack of the open containers finds the
close of each (`bracketPairs?`). `closeColumn` looks at one family only and starts anew in every
scope, and it finds the same close (`Pairing.closeColumn_eq`): what stands between two partners is
nested itself, so it takes no close of the family too many. Pairs lie beside or within each other
(`Pairing.nested`), so a container ends before the ones around it do.
-/

namespace MarkedSheet

/-- The column opens or closes a container. -/
def Kind.isBracket : Kind → Bool
  | .opening _ | .closing _ => true
  | _ => false

/-- The open and close columns of the containers in the columns from `col` on, where the containers
in `stack` are open, the last opened first. A close goes with the container on top of the stack.
Nothing if that is of another family or there is none, or if a container stays open. -/
def pairsFrom (stack : List (Nat × Family)) (col : Nat) : List Kind → Option (List (Nat × Nat))
  | [] => if stack.isEmpty then some [] else none
  | kind :: rest =>
    match kind with
    | .opening family => pairsFrom ((col, family) :: stack) (col + 1) rest
    | .closing family =>
      match stack with
      | (opened, own) :: outer =>
        if family = own then (pairsFrom outer (col + 1) rest).map ((opened, col) :: ·) else none
      | [] => none
    | _ => pairsFrom stack (col + 1) rest

/-- The open and close columns of the containers of a title row, if its brackets are properly
nested. -/
def bracketPairs? (kinds : List Kind) : Option (List (Nat × Nat)) :=
  pairsFrom [] 0 kinds

/-- The pairs are those of the columns from `col` on, with the containers in `stack` open. -/
inductive Matched : List (Nat × Family) → Nat → List Kind → List (Nat × Nat) → Prop
  | done (col : Nat) : Matched [] col [] []
  | opening {stack : List (Nat × Family)} {col : Nat} {family : Family} {rest : List Kind}
      {pairs : List (Nat × Nat)} (hrest : Matched ((col, family) :: stack) (col + 1) rest pairs) :
      Matched stack col (.opening family :: rest) pairs
  | closing {stack : List (Nat × Family)} {opened col : Nat} {family : Family} {rest : List Kind}
      {pairs : List (Nat × Nat)} (hrest : Matched stack (col + 1) rest pairs) :
      Matched ((opened, family) :: stack) col (.closing family :: rest) ((opened, col) :: pairs)
  | other {stack : List (Nat × Family)} {col : Nat} {kind : Kind} {rest : List Kind}
      {pairs : List (Nat × Nat)} (hkind : kind.isBracket = false)
      (hrest : Matched stack (col + 1) rest pairs) : Matched stack col (kind :: rest) pairs

theorem matched_of_pairsFrom {kinds : List Kind} : ∀ {stack : List (Nat × Family)} {col : Nat}
    {pairs : List (Nat × Nat)}, pairsFrom stack col kinds = some pairs →
      Matched stack col kinds pairs := by
  induction kinds with
  | nil =>
    intro stack col pairs h
    cases stack with
    | nil =>
      obtain rfl : [] = pairs := by simpa [pairsFrom] using h
      exact .done col
    | cons top outer => simp [pairsFrom] at h
  | cons kind rest ih =>
    intro stack col pairs h
    cases kind with
    | opening family => exact .opening (ih h)
    | closing family =>
      rcases stack with _ | ⟨⟨opened, own⟩, outer⟩
      · simp [pairsFrom] at h
      · simp only [pairsFrom] at h
        split at h
        next hown =>
          obtain ⟨pairs, hrest, rfl⟩ := Option.map_eq_some_iff.1 h
          exact hown ▸ .closing (ih hrest)
        next => simp at h
    | _ => exact .other rfl (ih h)

section Scan

variable (family : Family) (depth : Nat) (rest : List Kind)

theorem closeOffset?_opening (opened : Family) :
    closeOffset? family depth (.opening opened :: rest)
      = (closeOffset? family (depth + if opened = family then 1 else 0) rest).map (· + 1) := by
  by_cases h : opened = family <;> simp [closeOffset?, h]

theorem closeOffset?_closing (closed : Family) :
    closeOffset? family (depth + if closed = family then 1 else 0) (.closing closed :: rest)
      = (closeOffset? family depth rest).map (· + 1) := by
  by_cases h : closed = family <;> simp [closeOffset?, h]

theorem closeOffset?_closing_self :
    closeOffset? family 0 (.closing family :: rest) = some 0 := by
  simp [closeOffset?]

theorem closeOffset?_other {kind : Kind} (h : kind.isBracket = false) :
    closeOffset? family depth (kind :: rest) = (closeOffset? family depth rest).map (· + 1) := by
  cases kind <;> simp_all [closeOffset?, Kind.isBracket]

variable {family depth}

/-- What comes after the close does not matter. -/
theorem closeOffset?_take {kinds : List Kind} : ∀ {depth n m : Nat},
    closeOffset? family depth kinds = some n → n < m →
      closeOffset? family depth (kinds.take m) = some n := by
  induction kinds with
  | nil =>
    intro depth n m h
    simp [closeOffset?] at h
  | cons kind rest ih =>
    intro depth n m h hlt
    obtain ⟨m, rfl⟩ : ∃ k, m = k + 1 := ⟨m - 1, by omega⟩
    have hinner : ∀ {depth : Nat}, (closeOffset? family depth rest).map (· + 1) = some n →
        (closeOffset? family depth (rest.take m)).map (· + 1) = some n := by
      intro depth hrest
      obtain ⟨k, hk, rfl⟩ := Option.map_eq_some_iff.1 hrest
      rw [ih hk (by omega)]
      rfl
    rw [List.take_succ_cons]
    unfold closeOffset? at h ⊢
    split
    next hopening =>
      rw [if_pos hopening] at h
      exact hinner h
    next hopening =>
      rw [if_neg hopening] at h
      split
      next hclosing =>
        rw [if_pos hclosing] at h
        cases depth with
        | zero => exact h
        | succ depth => exact hinner h
      next hclosing =>
        rw [if_neg hclosing] at h
        exact hinner h

/-- The close is found in every scope that it lies in. -/
theorem closeColumn_of_closeOffset? {kinds : List Kind} {opened stop n : Nat}
    (h : closeOffset? family 0 (kinds.drop (opened + 1)) = some n) (hlt : opened + 1 + n < stop) :
    closeColumn kinds opened stop family = opened + 1 + n := by
  rw [closeColumn, List.drop_take, closeOffset?_take h (by omega)]

end Scan

namespace Matched

variable {stack : List (Nat × Family)} {col : Nat} {kinds : List Kind} {pairs : List (Nat × Nat)}

/-- The partner of a container is its first close that no inner container of its family takes. The
container is one of the stack, under some inner ones, or is opened later. -/
theorem closeOffset?_of_mem (h : Matched stack col kinds pairs) {opened close : Nat}
    (hmem : (opened, close) ∈ pairs) :
    (∃ inner family outer n, stack = inner ++ (opened, family) :: outer
        ∧ closeOffset? family (inner.countP (·.2 = family)) kinds = some n ∧ close = col + n)
      ∨ ∃ k family n, opened = col + k ∧ kinds[k]? = some (.opening family)
        ∧ closeOffset? family 0 (kinds.drop (k + 1)) = some n ∧ close = opened + 1 + n := by
  induction h with
  | done => simp at hmem
  | @opening stack col own rest pairs _ ih =>
    rcases ih hmem with ⟨inner, family, outer, n, hstack, hn, hclose⟩
      | ⟨k, family, n, hopened, hkind, hn, hclose⟩
    · -- It is this container, or this container is one of the inner ones.
      rcases inner with _ | ⟨top, inner⟩
      · obtain ⟨⟨rfl, rfl⟩, -⟩ : (col = opened ∧ own = family) ∧ stack = outer := by
          simpa using hstack
        exact .inr ⟨0, own, n, rfl, rfl, hn, hclose⟩
      · obtain ⟨rfl, hbelow⟩ := List.cons.inj hstack
        refine .inl ⟨inner, family, outer, n + 1, hbelow, ?_, by omega⟩
        rw [List.countP_cons] at hn
        simp only [decide_eq_true_eq] at hn
        rw [closeOffset?_opening, hn]
        rfl
    · exact .inr ⟨k + 1, family, n, by omega, hkind, hn, hclose⟩
  | @closing stack top col own rest pairs _ ih =>
    rcases List.mem_cons.1 hmem with heq | hmem
    · obtain ⟨rfl, rfl⟩ := Prod.mk.inj heq
      exact .inl ⟨[], own, stack, 0, rfl, closeOffset?_closing_self own rest, rfl⟩
    · rcases ih hmem with ⟨inner, family, outer, n, hstack, hn, hclose⟩
        | ⟨k, family, n, hopened, hkind, hn, hclose⟩
      · refine .inl ⟨(top, own) :: inner, family, outer, n + 1, by rw [hstack]; rfl, ?_, by omega⟩
        rw [List.countP_cons]
        simp only [decide_eq_true_eq]
        rw [closeOffset?_closing, hn]
        rfl
      · exact .inr ⟨k + 1, family, n, by omega, hkind, hn, hclose⟩
  | @other stack col kind rest pairs hkind _ ih =>
    rcases ih hmem with ⟨inner, family, outer, n, hstack, hn, hclose⟩
      | ⟨k, family, n, hopened, hkind, hn, hclose⟩
    · refine .inl ⟨inner, family, outer, n + 1, hstack, ?_, by omega⟩
      rw [closeOffset?_other _ _ _ hkind, hn]
      rfl
    · exact .inr ⟨k + 1, family, n, by omega, hkind, hn, hclose⟩

theorem bounds (h : Matched stack col kinds pairs) {opened close : Nat}
    (hmem : (opened, close) ∈ pairs) :
    ((∃ family, (opened, family) ∈ stack) ∨ col ≤ opened) ∧ col ≤ close := by
  rcases h.closeOffset?_of_mem hmem with ⟨inner, family, outer, n, rfl, -, rfl⟩
    | ⟨k, family, n, rfl, -, -, rfl⟩
  · exact ⟨.inl ⟨family, by simp⟩, by omega⟩
  · exact ⟨.inr (by omega), by omega⟩

theorem exists_close (h : Matched stack col kinds pairs) :
    (∀ opened family, (opened, family) ∈ stack → ∃ close, (opened, close) ∈ pairs)
      ∧ ∀ k family, kinds[k]? = some (.opening family) → ∃ close, (col + k, close) ∈ pairs := by
  induction h with
  | done => simp
  | @opening _ col own _ _ _ ih =>
    refine ⟨fun opened family hmem => ih.1 opened family (List.mem_cons_of_mem _ hmem),
      fun k family hk => ?_⟩
    cases k with
    | zero => exact ih.1 col own List.mem_cons_self
    | succ k => exact Nat.add_right_comm col 1 k ▸ ih.2 k family hk
  | @closing _ top col own _ _ _ ih =>
    refine ⟨fun opened family hmem => ?_, fun k family hk => ?_⟩
    · rcases List.mem_cons.1 hmem with heq | hmem
      · obtain ⟨rfl, rfl⟩ := Prod.mk.inj heq
        exact ⟨col, List.mem_cons_self⟩
      · obtain ⟨close, hclose⟩ := ih.1 opened family hmem
        exact ⟨close, List.mem_cons_of_mem _ hclose⟩
    · cases k with
      | zero => simp at hk
      | succ k =>
        obtain ⟨close, hclose⟩ := ih.2 k family hk
        exact ⟨close, List.mem_cons_of_mem _ (Nat.add_right_comm col 1 k ▸ hclose)⟩
  | @other _ col kind _ _ hkind _ ih =>
    refine ⟨ih.1, fun k family hk => ?_⟩
    cases k with
    | zero =>
      obtain rfl : kind = .opening family := by simpa using hk
      simp [Kind.isBracket] at hkind
    | succ k => exact Nat.add_right_comm col 1 k ▸ ih.2 k family hk

theorem exists_opened (h : Matched stack col kinds pairs) :
    ∀ k family, kinds[k]? = some (.closing family) → ∃ opened, (opened, col + k) ∈ pairs := by
  induction h with
  | done => simp
  | @opening _ col _ _ _ _ ih =>
    intro k family hk
    cases k with
    | zero => simp at hk
    | succ k => exact Nat.add_right_comm col 1 k ▸ ih k family hk
  | @closing _ top col _ _ _ _ ih =>
    intro k family hk
    cases k with
    | zero => exact ⟨top, List.mem_cons_self⟩
    | succ k =>
      obtain ⟨opened, hopened⟩ := ih k family hk
      exact ⟨opened, List.mem_cons_of_mem _ (Nat.add_right_comm col 1 k ▸ hopened)⟩
  | @other _ col kind _ _ hkind _ ih =>
    intro k family hk
    cases k with
    | zero =>
      obtain rfl : kind = .closing family := by simpa using hk
      simp [Kind.isBracket] at hkind
    | succ k => exact Nat.add_right_comm col 1 k ▸ ih k family hk

/-- A container that is opened within another is closed before it. -/
theorem nested (h : Matched stack col kinds pairs)
    (hsorted : stack.Pairwise fun top below => below.1 < top.1)
    (hbelow : ∀ entry ∈ stack, entry.1 < col) {opened close opened' close' : Nat}
    (hmem : (opened, close) ∈ pairs) (hmem' : (opened', close') ∈ pairs) (hlt : opened < opened')
    (hlt' : opened' < close) : close' < close := by
  induction h with
  | done => simp at hmem
  | @opening stack col own rest pairs _ ih =>
    refine ih (List.pairwise_cons.2 ⟨hbelow, hsorted⟩) (fun entry hentry => ?_) hmem hmem'
    rcases List.mem_cons.1 hentry with rfl | hentry
    · exact Nat.lt_succ_self col
    · exact Nat.lt_succ_of_lt (hbelow entry hentry)
  | @closing stack top col own rest pairs hrest ih =>
    obtain ⟨htop, hsorted⟩ := List.pairwise_cons.1 hsorted
    rcases List.mem_cons.1 hmem with heq | hin
    · -- What is opened after the top of the stack is closed by now, so it is not among the rest.
      obtain ⟨rfl, rfl⟩ := Prod.mk.inj heq
      rcases List.mem_cons.1 hmem' with heq | hin'
      · obtain ⟨rfl, rfl⟩ := Prod.mk.inj heq
        omega
      · rcases (hrest.bounds hin').1 with ⟨family, hopened⟩ | hopened
        · have := htop _ hopened
          omega
        · omega
    · rcases List.mem_cons.1 hmem' with heq | hin'
      · obtain ⟨rfl, rfl⟩ := Prod.mk.inj heq
        have := (hrest.bounds hin).2
        omega
      · refine ih hsorted (fun entry hentry => ?_) hin hin'
        exact Nat.lt_succ_of_lt (hbelow entry (List.mem_cons_of_mem _ hentry))
  | other _ _ ih =>
    exact ih hsorted (fun entry hentry => Nat.lt_succ_of_lt (hbelow entry hentry)) hmem hmem'

end Matched

/-- The pairs are the open and close columns of a properly nested title row: every bracket is in
one, the close is the one that the family calls for, and the pairs are nested. -/
structure Pairing (kinds : List Kind) (pairs : List (Nat × Nat)) : Prop where
  close : ∀ {opened close : Nat}, (opened, close) ∈ pairs → ∃ family n,
    kinds[opened]? = some (.opening family)
      ∧ closeOffset? family 0 (kinds.drop (opened + 1)) = some n ∧ close = opened + 1 + n
  exists_close : ∀ {opened : Nat} {family : Family}, kinds[opened]? = some (.opening family) →
    ∃ close, (opened, close) ∈ pairs
  exists_opened : ∀ {close : Nat} {family : Family}, kinds[close]? = some (.closing family) →
    ∃ opened, (opened, close) ∈ pairs
  nested : ∀ {opened close opened' close' : Nat}, (opened, close) ∈ pairs →
    (opened', close') ∈ pairs → opened < opened' → opened' < close → close' < close

theorem pairing_of_bracketPairs? {kinds : List Kind} {pairs : List (Nat × Nat)}
    (h : bracketPairs? kinds = some pairs) : Pairing kinds pairs := by
  have hmatched := matched_of_pairsFrom h
  refine ⟨fun hmem => ?_, fun {opened family} hkind => ?_, fun {close family} hkind => ?_,
    hmatched.nested .nil (by simp)⟩
  · rcases hmatched.closeOffset?_of_mem hmem with ⟨inner, family, outer, n, hstack, -, -⟩
      | ⟨k, family, n, rfl, hkind, hn, hclose⟩
    · simp at hstack
    · rw [Nat.zero_add] at hclose ⊢
      exact ⟨family, n, hkind, hn, hclose⟩
  · exact Nat.zero_add opened ▸ hmatched.exists_close.2 opened family hkind
  · exact Nat.zero_add close ▸ hmatched.exists_opened close family hkind

namespace Pairing

variable {kinds : List Kind} {pairs : List (Nat × Nat)} {opened close : Nat}

theorem kinds_eq (h : Pairing kinds pairs) (hmem : (opened, close) ∈ pairs) :
    opened < close ∧ ∃ family, kinds[opened]? = some (.opening family)
      ∧ kinds[close]? = some (.closing family) := by
  obtain ⟨family, n, hkind, hn, rfl⟩ := h.close hmem
  have hclosing := getElem?_of_closeOffset? hn
  rw [List.getElem?_drop] at hclosing
  exact ⟨by omega, family, hkind, hclosing⟩

theorem close_unique (h : Pairing kinds pairs) {close' : Nat} (hmem : (opened, close) ∈ pairs)
    (hmem' : (opened, close') ∈ pairs) : close = close' := by
  obtain ⟨family, n, hkind, hn, rfl⟩ := h.close hmem
  obtain ⟨family', n', hkind', hn', rfl⟩ := h.close hmem'
  obtain rfl : family = family' := by simpa [hkind] using hkind'
  obtain rfl : n = n' := by simpa [hn] using hn'
  rfl

theorem closeColumn_eq (h : Pairing kinds pairs) (hmem : (opened, close) ∈ pairs)
    {family : Family} (hkind : kinds[opened]? = some (.opening family)) {stop : Nat}
    (hstop : close < stop) : closeColumn kinds opened stop family = close := by
  obtain ⟨own, n, hown, hn, rfl⟩ := h.close hmem
  obtain rfl : own = family := by simpa [hown] using hkind
  exact closeColumn_of_closeOffset? hn hstop

end Pairing

end MarkedSheet
