import MarkedSheet.Emission.Forest
import MarkedSheet.Proofs.Header.Pairing

/-!
# Containers are closed by their partners

In a properly nested title row without key columns the outline follows the brackets: its containers
are the pairs that a stack finds, and it meets no close outside the container that it closes
(`outline_follows_pairs`). A key column could break this, for it takes the next value column and
passes over the brackets in between.
-/

namespace MarkedSheet

mutual

/-- The open and close columns of the containers in an item. -/
def Item.containers : Item → List (Nat × Nat)
  | .container _ col close items => (col, close) :: containersOf items
  | _ => []

/-- The open and close columns of the containers in an outline. -/
def containersOf : List Item → List (Nat × Nat)
  | [] => []
  | item :: rest => item.containers ++ containersOf rest

end

mutual

/-- The closing columns that an item meets where no container waits for them. -/
def Item.strayCloses : Item → List Nat
  | .silent col (.closing _) => [col]
  | .container _ _ _ items => strayClosesOf items
  | _ => []

/-- The closing columns that an outline meets where no container waits for them. -/
def strayClosesOf : List Item → List Nat
  | [] => []
  | item :: rest => item.strayCloses ++ strayClosesOf rest

end

/-- No container reaches over an end of the columns from `col` up to `stop`. -/
def IsScope (pairs : List (Nat × Nat)) (col stop : Nat) : Prop :=
  ∀ {opened close : Nat}, (opened, close) ∈ pairs →
    (col ≤ opened ∧ opened < stop ↔ col ≤ close ∧ close < stop)

/-- The containers of the items are the pairs in the columns from `col` up to `stop`, and no other
close is met. -/
structure Follows (pairs : List (Nat × Nat)) (col stop : Nat) (items : List Item) : Prop where
  strays : strayClosesOf items = []
  containers : ∀ {opened close : Nat}, (opened, close) ∈ containersOf items
    ↔ (opened, close) ∈ pairs ∧ col ≤ opened ∧ opened < stop

section Scopes

variable {kinds : List Kind} {pairs : List (Nat × Nat)} {col close stop : Nat}

theorem Pairing.isScope (h : Pairing kinds pairs) : IsScope pairs 0 kinds.length := by
  intro opened close hmem
  obtain ⟨-, family, hopened, hclose⟩ := h.kinds_eq hmem
  have hopened := (List.getElem?_eq_some_iff.1 hopened).1
  have hclose := (List.getElem?_eq_some_iff.1 hclose).1
  omega

theorem Pairing.ne_of_not_isBracket (h : Pairing kinds pairs) {kind : Kind}
    (hkind : kinds[col]? = some kind) (hbracket : kind.isBracket = false) :
    ∀ pair ∈ pairs, pair.1 ≠ col ∧ pair.2 ≠ col := by
  rintro ⟨opened, close⟩ hmem
  obtain ⟨-, family, hopened, hclose⟩ := h.kinds_eq hmem
  constructor
  · rintro rfl
    rw [hopened] at hkind
    cases hkind
    simp [Kind.isBracket] at hbracket
  · rintro rfl
    rw [hclose] at hkind
    cases hkind
    simp [Kind.isBracket] at hbracket

theorem IsScope.skip (hscope : IsScope pairs col stop)
    (hne : ∀ pair ∈ pairs, pair.1 ≠ col ∧ pair.2 ≠ col) :
    IsScope pairs (col + 1) stop := by
  intro opened close hmem
  have := hscope hmem
  have := hne _ hmem
  omega

/-- Two columns in pairs are different where one opens and one closes a container. -/
theorem Pairing.close_ne_opened (h : Pairing kinds pairs) {opened close opened' close' : Nat}
    (hmem : (opened, close) ∈ pairs) (hmem' : (opened', close') ∈ pairs) : close ≠ opened' := by
  obtain ⟨-, family, -, hclose⟩ := h.kinds_eq hmem
  obtain ⟨-, family', hopened', -⟩ := h.kinds_eq hmem'
  rintro rfl
  rw [hclose] at hopened'
  cases hopened'

theorem Pairing.isScope_inside (h : Pairing kinds pairs) (hmem : (col, close) ∈ pairs) :
    IsScope pairs (col + 1) close := by
  intro opened close' hmem'
  have hlt := (h.kinds_eq hmem').1
  constructor
  · rintro ⟨hopened, hstop⟩
    have := h.nested hmem hmem' (by omega) hstop
    omega
  · rintro ⟨hopened, hstop⟩
    rcases Nat.lt_trichotomy opened col with hbefore | rfl | hafter
    · have := h.nested hmem' hmem hbefore (by omega)
      omega
    · have := h.close_unique hmem hmem'
      omega
    · omega

theorem Pairing.isScope_after (h : Pairing kinds pairs) (hscope : IsScope pairs col stop)
    (hmem : (col, close) ∈ pairs) : IsScope pairs (close + 1) stop := by
  intro opened close' hmem'
  have hlt := (h.kinds_eq hmem).1
  have hlt' := (h.kinds_eq hmem').1
  have hbounds := hscope hmem'
  constructor
  · rintro ⟨hopened, hstop⟩
    omega
  · rintro ⟨hclose, hstop⟩
    have hne := h.close_ne_opened hmem hmem'
    rcases Nat.lt_trichotomy opened col with hbefore | rfl | hafter
    · omega
    · have := h.close_unique hmem hmem'
      omega
    · rcases Nat.lt_or_ge opened close with hinside | hbehind
      · have := h.nested hmem hmem' hafter hinside
        omega
      · omega

/-- An item that holds no container and is no close. -/
theorem Follows.skip {item : Item} {rest : List Item} (h : Follows pairs (col + 1) stop rest)
    (hne : ∀ pair ∈ pairs, pair.1 ≠ col ∧ pair.2 ≠ col)
    (hcontainers : item.containers = []) (hstrays : item.strayCloses = []) :
    Follows pairs col stop (item :: rest) := by
  refine ⟨by rw [strayClosesOf, hstrays, h.strays, List.append_nil], fun {opened close} => ?_⟩
  rw [containersOf, hcontainers, List.nil_append, h.containers]
  refine and_congr_right fun hmem => ?_
  have := hne _ hmem
  omega

/-- Without key columns the outline of a scope follows the pairs. -/
theorem Laid.follows (hpairing : Pairing kinds pairs) (hkey : Kind.key ∉ kinds) {items : List Item}
    (h : Laid kinds col stop items) : IsScope pairs col stop → Follows pairs col stop items := by
  induction h with
  | done hend =>
    refine fun _ => ⟨rfl, ?_⟩
    simp only [containersOf, List.not_mem_nil, false_iff]
    omega
  | plain _ hkind _ ih =>
    intro hscope
    have hne := hpairing.ne_of_not_isBracket hkind rfl
    exact (ih (hscope.skip hne)).skip hne rfl rfl
  | ability _ hkind _ ih =>
    intro hscope
    have hne := hpairing.ne_of_not_isBracket hkind rfl
    exact (ih (hscope.skip hne)).skip hne rfl rfl
  | pairs _ hkind => exact absurd (List.mem_of_getElem? hkind) hkey
  | loneKey _ hkind => exact absurd (List.mem_of_getElem? hkind) hkey
  | @silent kind col stop rest hlt hkind hsilent _ ih =>
    intro hscope
    have hbracket : kind.isBracket = false := by
      cases kind with
      | closing family =>
        -- The container of the close would have been opened in front of the scope.
        obtain ⟨opened, hmem⟩ := hpairing.exists_opened hkind
        have := (hpairing.kinds_eq hmem).1
        have := hscope hmem
        omega
      | opening family => simp [Kind.isSilent] at hsilent
      | _ => rfl
    have hne := hpairing.ne_of_not_isBracket hkind hbracket
    refine (ih (hscope.skip hne)).skip hne rfl ?_
    cases kind <;> simp_all [Item.strayCloses, Kind.isBracket]
  | @container family col close stop items rest hlt hkind hclose _ _ ihItems ihRest =>
    intro hscope
    obtain ⟨partner, hmem⟩ := hpairing.exists_close hkind
    have hstop := (hscope hmem).1 ⟨Nat.le_refl _, hlt⟩
    obtain rfl : partner = close :=
      (hpairing.closeColumn_eq hmem hkind hstop.2).symm.trans hclose
    have hinside := ihItems (hpairing.isScope_inside hmem)
    have hafter := ihRest (hpairing.isScope_after hscope hmem)
    refine ⟨?_, fun {opened close'} => ?_⟩
    · rw [strayClosesOf, Item.strayCloses, hinside.strays, hafter.strays, List.append_nil]
    · rw [containersOf, Item.containers, List.mem_append, List.mem_cons, hinside.containers,
        hafter.containers]
      constructor
      · rintro ((heq | ⟨hmem', hrange⟩) | ⟨hmem', hrange⟩)
        · obtain ⟨rfl, rfl⟩ := Prod.mk.inj heq
          exact ⟨hmem, Nat.le_refl _, hlt⟩
        · exact ⟨hmem', by omega⟩
        · exact ⟨hmem', by omega⟩
      · rintro ⟨hmem', hrange⟩
        have hne := hpairing.close_ne_opened hmem hmem'
        rcases Nat.lt_trichotomy opened col with hbefore | rfl | hbehind
        · omega
        · exact .inl (.inl (by rw [hpairing.close_unique hmem' hmem]))
        · rcases Nat.lt_or_ge opened partner with hin | hout
          · exact .inl (.inr ⟨hmem', by omega⟩)
          · exact .inr ⟨hmem', by omega⟩

end Scopes

namespace Page

/-- In a properly nested title row every container has a partner, and its close column in every
scope around it is the partner. Where there is no key column, the outline that a block over all
columns goes by has those pairs for its containers and meets no other close. -/
theorem outline_follows_pairs (page : Page) {pairs : List (Nat × Nat)}
    (hpairs : bracketPairs? page.schema.kinds = some pairs) :
    (∀ opened family, page.schema.kinds[opened]? = some (.opening family) →
        ∃ partner, (opened, partner) ∈ pairs)
      ∧ (∀ opened partner, (opened, partner) ∈ pairs → ∃ family,
        page.schema.kinds[opened]? = some (.opening family)
          ∧ page.schema.kinds[partner]? = some (.closing family)
          ∧ ∀ stop, (stop = page.schema.width
              ∨ ∃ around, (around, stop) ∈ pairs ∧ around < opened ∧ opened < stop) →
            closeColumn page.schema.kinds opened stop family = partner)
      ∧ (Kind.key ∉ page.schema.kinds →
        (∀ rowStart rowStop, page.blockNodes rowStart rowStop 0 page.schema.width
            = page.itemsNodes (outline page.schema.kinds 0 page.schema.width) rowStart rowStop)
          ∧ strayClosesOf (outline page.schema.kinds 0 page.schema.width) = []
          ∧ ∀ opened close,
            (opened, close) ∈ containersOf (outline page.schema.kinds 0 page.schema.width)
              ↔ (opened, close) ∈ pairs) := by
  have hpairing := pairing_of_bracketPairs? hpairs
  have hwidth := page.schema.length_kinds
  refine ⟨fun _ _ => hpairing.exists_close, fun opened partner hmem => ?_, fun hkey => ?_⟩
  · obtain ⟨-, family, hkind, hclosing⟩ := hpairing.kinds_eq hmem
    refine ⟨family, hkind, hclosing, fun stop hstop => hpairing.closeColumn_eq hmem hkind ?_⟩
    rcases hstop with rfl | ⟨around, haround, hbefore, hwithin⟩
    · exact hwidth ▸ (List.getElem?_eq_some_iff.1 hclosing).1
    · exact hpairing.nested haround hmem hbefore hwithin
  · have hlaid := laid_outline page.schema.kinds 0 page.schema.width (by simp)
    have hfollows := hlaid.follows hpairing hkey (hwidth ▸ hpairing.isScope)
    refine ⟨fun _ _ => rfl, hfollows.strays, fun opened close => ?_⟩
    rw [hfollows.containers, and_iff_left_iff_imp]
    intro hmem
    obtain ⟨-, family, hopened, -⟩ := hpairing.kinds_eq hmem
    exact ⟨Nat.zero_le _, hwidth ▸ (List.getElem?_eq_some_iff.1 hopened).1⟩

/-- Containers of all four families within each other. -/
def layeredPage : Page where
  schema := .ofTitles (["id", "a[", "b\x7b↓", "c[↓", "x", "d\x7b", "y", "\x7d", "↓]", "↓\x7d", "e[",
    "]", "]"].map fun t => some t.toList)
  rows := []

theorem layeredPage_follows_pairs :
    bracketPairs? layeredPage.schema.kinds = some [(5, 7), (3, 8), (2, 9), (10, 11), (1, 12)]
      ∧ Kind.key ∉ layeredPage.schema.kinds
      ∧ closeColumn layeredPage.schema.kinds 3 9 .arrayDown = 8
      ∧ strayClosesOf (outline layeredPage.schema.kinds 0 layeredPage.schema.width) = []
      ∧ (3, 8) ∈ containersOf (outline layeredPage.schema.kinds 0 layeredPage.schema.width) := by
  have hpairs : bracketPairs? layeredPage.schema.kinds
      = some [(5, 7), (3, 8), (2, 9), (10, 11), (1, 12)] := by decide
  have hkey : Kind.key ∉ layeredPage.schema.kinds := by decide
  obtain ⟨-, hclose, hblock⟩ := layeredPage.outline_follows_pairs hpairs
  obtain ⟨family, hkind, -, hscope⟩ := hclose 3 8 (by decide)
  have hopens : layeredPage.schema.kinds[3]? = some (.opening .arrayDown) := by decide
  obtain rfl : Family.arrayDown = family := by simpa [hopens] using hkind
  obtain ⟨-, hstrays, hcontainers⟩ := hblock hkey
  exact ⟨hpairs, hkey, hscope 9 (.inr ⟨2, by decide, by decide, by decide⟩), hstrays,
    (hcontainers 3 8).2 (by decide)⟩

end Page

end MarkedSheet
