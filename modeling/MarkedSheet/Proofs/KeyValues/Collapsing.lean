import MarkedSheet.Proofs.KeyValues.Nesting

/-!
# What the collapse pass leaves of a forest

The lines of one forest are collapsed without a look at what stands above them, so forests one after
another are collapsed one by one (`collapse_linesOf_append`). Where no pair is taken for an opening
line, what is left of a forest are the lines of the forest without its empty containers
(`collapse_linesOf`), unless in some container a comment that ends with a brace is the last that
remains: the pass takes it for the line that opens the container, drops it with the line that closes
the container, and a container stays open (`nesting_collapse_linesOf`).
-/

namespace MarkedSheet

namespace KeyValues

mutual

/-- What remains of a node without its empty containers. -/
def Node.withoutEmpty : Node → List Node
  | .comment content => [.comment content]
  | .pair place key value => [.pair place key value]
  | .container name children =>
    if (withoutEmpty children).isEmpty then [] else [.container name (withoutEmpty children)]

/-- What remains of a forest without its empty containers. A container is empty when all it holds
is. -/
def withoutEmpty : List Node → List Node
  | [] => []
  | node :: rest => node.withoutEmpty ++ withoutEmpty rest

end

/-- The forest ends with a comment whose line ends with a brace. -/
def endsLikeOpening (nodes : List Node) : Bool :=
  match nodes.getLast? with
  | some (.comment content) => opensContainer (commentText content)
  | _ => false

mutual

/-- In some container of the node, a comment whose line ends with a brace is the last to remain. -/
def Node.isMisread : Node → Bool
  | .comment _ | .pair .. => false
  | .container _ children => isMisread children || endsLikeOpening (withoutEmpty children)

/-- In some container of the forest, a comment whose line ends with a brace is the last to
remain. -/
def isMisread : List Node → Bool
  | [] => false
  | node :: rest => node.isMisread || isMisread rest

end

mutual

/-- The keys and values in a node. -/
def Node.pairs : Node → List (Text × Text)
  | .comment _ => []
  | .pair _ key value => [(key, value)]
  | .container _ children => pairsOf children

/-- The keys and values in a forest, in their order. -/
def pairsOf : List Node → List (Text × Text)
  | [] => []
  | node :: rest => node.pairs ++ pairsOf rest

end

/-- No pair of the node is taken for a line that opens a container. -/
def Node.Shut (node : Node) : Prop :=
  ∀ pair ∈ node.pairs, opensContainer (pairText pair.1 pair.2) = false

/-- No pair of the forest is taken for a line that opens a container. -/
def Shut (nodes : List Node) : Prop :=
  ∀ pair ∈ pairsOf nodes, opensContainer (pairText pair.1 pair.2) = false

/-- The lines leave some lines above the kept ones, the same whatever those are. -/
def Settles (lines : List Text) : Prop :=
  ∃ above, ∀ kept, lines.foldl keepLine kept = above ++ kept

section Settling

theorem keepLine_of_not_closes {line : Text} (h : closesContainer line = false)
    (kept : List Text) : keepLine kept line = line :: kept := by
  cases kept with
  | nil => rfl
  | cons top below => simp [keepLine, h]

theorem keepLine_of_not_opens {top : Text} (h : opensContainer top = false) (below : List Text)
    (line : Text) : keepLine (top :: below) line = line :: top :: below := by
  simp [keepLine, h]

theorem keepLine_of_both {top line : Text} (hline : closesContainer line)
    (htop : opensContainer top) (below : List Text) : keepLine (top :: below) line = below := by
  simp [keepLine, hline, htop]

theorem foldl_keepLine_wrap {opening : Text} (h : closesContainer opening = false)
    (lines : List Text) (closing : Text) (kept : List Text) :
    (opening :: lines ++ [closing]).foldl keepLine kept
      = keepLine (lines.foldl keepLine (opening :: kept)) closing := by
  simp [keepLine_of_not_closes h]

theorem settles_nil : Settles [] :=
  ⟨[], fun _ => rfl⟩

theorem Settles.append {s t : List Text} (hs : Settles s) (ht : Settles t) : Settles (s ++ t) := by
  obtain ⟨a, ha⟩ := hs
  obtain ⟨b, hb⟩ := ht
  exact ⟨b ++ a, fun kept => by rw [List.foldl_append, ha, hb, List.append_assoc]⟩

theorem settles_singleton {line : Text} (h : closesContainer line = false) : Settles [line] :=
  ⟨[line], fun kept => keepLine_of_not_closes h kept⟩

/-- The closing line meets the line that opens its container at the deepest, and never what stands
above that. -/
theorem Settles.wrap {lines : List Text} (h : Settles lines) {opening : Text}
    (hopening : closesContainer opening = false) (closing : Text) :
    Settles (opening :: lines ++ [closing]) := by
  obtain ⟨above, hlines⟩ := h
  rcases above with _ | ⟨top, below⟩
  · refine ⟨keepLine [opening] closing, fun kept => ?_⟩
    rw [foldl_keepLine_wrap hopening, hlines]
    simp only [List.nil_append, keepLine]
    split <;> rfl
  · refine ⟨keepLine (top :: below ++ [opening]) closing, fun kept => ?_⟩
    rw [foldl_keepLine_wrap hopening, hlines]
    simp only [List.cons_append, keepLine]
    split <;> simp

variable (unit : Text)

mutual

theorem Node.settles_lines (depth : Int) : ∀ node : Node, Settles (node.lines unit depth)
  | .comment content => settles_singleton (closesContainer_commentLine unit depth content)
  | .pair _ key value => settles_singleton (closesContainer_pairLine unit depth key value)
  | .container name children =>
    (settles_linesOf (depth + 1) children).wrap (closesContainer_openLine unit depth name) _

theorem settles_linesOf (depth : Int) : ∀ nodes : List Node, Settles (linesOf unit depth nodes)
  | [] => settles_nil
  | node :: rest => (Node.settles_lines depth node).append (settles_linesOf depth rest)

end

/-- No line of a forest is dropped for what stands above the forest. -/
theorem collapse_linesOf_append (depth : Int) (s t : List Node) :
    collapse (linesOf unit depth (s ++ t))
      = collapse (linesOf unit depth s) ++ collapse (linesOf unit depth t) := by
  obtain ⟨a, ha⟩ := settles_linesOf unit depth s
  obtain ⟨b, hb⟩ := settles_linesOf unit depth t
  simp only [collapse, linesOf_append, List.foldl_append, ha, hb, List.append_nil,
    List.reverse_append]

end Settling

section Remains

theorem quoted_singleton {node : Node} : Quoted [node] ↔ node.Quoted := by
  simp [Quoted]

mutual

theorem Node.quoted_withoutEmpty : ∀ {node : Node}, node.Quoted → Quoted node.withoutEmpty
  | .comment _, h => quoted_singleton.2 h
  | .pair .., h => quoted_singleton.2 h
  | .container _ children, h => by
    have hchildren : Quoted (withoutEmpty children) := KeyValues.quoted_withoutEmpty h
    rw [Node.withoutEmpty]
    split
    · trivial
    · exact quoted_singleton.2 hchildren

theorem quoted_withoutEmpty : ∀ {nodes : List Node}, Quoted nodes → Quoted (withoutEmpty nodes)
  | [], _ => trivial
  | _ :: _, h => quoted_append.2 ⟨Node.quoted_withoutEmpty h.1, quoted_withoutEmpty h.2⟩

end

theorem pairsOf_append (s t : List Node) : pairsOf (s ++ t) = pairsOf s ++ pairsOf t := by
  induction s with
  | nil => simp [pairsOf]
  | cons node rest ih => simp [pairsOf, ih]

theorem pairsOf_singleton (node : Node) : pairsOf [node] = node.pairs := by
  simp [pairsOf]

mutual

theorem Node.pairsOf_withoutEmpty : ∀ node : Node, pairsOf node.withoutEmpty = node.pairs
  | .comment _ => rfl
  | .pair .. => rfl
  | .container name children => by
    have ih := KeyValues.pairsOf_withoutEmpty children
    rw [Node.withoutEmpty, Node.pairs, ← ih]
    split
    next hempty => rw [List.isEmpty_iff.1 hempty]
    next => exact pairsOf_singleton _

/-- Only containers are empty, so no pair goes. -/
theorem pairsOf_withoutEmpty : ∀ nodes : List Node, pairsOf (withoutEmpty nodes) = pairsOf nodes
  | [] => rfl
  | node :: rest => by
    rw [withoutEmpty, pairsOf_append, Node.pairsOf_withoutEmpty node, pairsOf_withoutEmpty rest,
      pairsOf]

end

theorem shut_withoutEmpty {nodes : List Node} (h : Shut nodes) : Shut (withoutEmpty nodes) := by
  rwa [Shut, pairsOf_withoutEmpty]

theorem shut_append {s t : List Node} : Shut (s ++ t) ↔ Shut s ∧ Shut t := by
  rw [Shut, pairsOf_append, List.forall_mem_append]
  rfl

theorem shut_cons {node : Node} {rest : List Node} :
    Shut (node :: rest) ↔ node.Shut ∧ Shut rest := by
  rw [Shut, pairsOf, List.forall_mem_append]
  rfl

theorem shut_singleton {node : Node} : Shut [node] ↔ node.Shut := by
  rw [Shut, pairsOf_singleton, Node.Shut]

mutual

theorem Node.Quoted.shut : ∀ {node : Node}, node.Quoted → node.Shut
  | .comment _, _ => by simp [Node.Shut, Node.pairs]
  | .pair _ key _, h => by simpa [Node.Shut, Node.pairs] using opensContainer_pairText key h
  | .container _ _, h => Quoted.shut h

/-- A quoted value ends with a quotation mark. -/
theorem Quoted.shut : ∀ {nodes : List Node}, Quoted nodes → Shut nodes
  | [], _ => by simp [Shut, pairsOf]
  | _ :: _, h => shut_cons.2 ⟨Node.Quoted.shut h.1, Quoted.shut h.2⟩

end

variable {unit : Text} (hunit : unit.isBlank) (depth : Int)

include hunit

/-- The last line of a forest ends with a brace only if the forest ends with a comment that does. -/
theorem linesOf_eq_concat {nodes : List Node} (hne : nodes ≠ []) (h : Shut nodes) :
    ∃ front line, linesOf unit depth nodes = front ++ [line]
      ∧ opensContainer line = endsLikeOpening nodes := by
  obtain ⟨init, last, rfl⟩ : ∃ init last, nodes = init ++ [last] :=
    ⟨_, _, (List.dropLast_concat_getLast hne).symm⟩
  have hlast : last.Shut := shut_singleton.1 (shut_append.1 h).2
  have hlines : linesOf unit depth (init ++ [last])
      = linesOf unit depth init ++ last.lines unit depth := by
    simp [linesOf_append, linesOf]
  have hend : endsLikeOpening (init ++ [last]) = endsLikeOpening [last] := by
    simp [endsLikeOpening]
  rw [hlines, hend]
  cases last with
  | comment content =>
    exact ⟨linesOf unit depth init, _, rfl, opensContainer_indented hunit depth _⟩
  | pair place key value =>
    refine ⟨linesOf unit depth init, _, rfl, ?_⟩
    rw [opensContainer_indented hunit, hlast (key, value) (List.mem_singleton.2 rfl)]
    rfl
  | container name children =>
    refine ⟨_, indentation unit depth ++ closeText, (List.append_assoc ..).symm, ?_⟩
    rw [opensContainer_indented hunit, opensContainer_closeText]
    rfl

end Remains

section Collapse

variable {unit : Text} (hunit : unit.isBlank)

include hunit

/-- What the closing line of a container does after the lines that its children leave. -/
theorem keepLine_closeLine (depth : Int) (name : Text) {children : List Node}
    (hshut : Shut children) (hend : endsLikeOpening children = false) (kept : List Text) :
    keepLine ((linesOf unit (depth + 1) children).reverse
        ++ (indentation unit depth ++ openText name) :: kept) (indentation unit depth ++ closeText)
      = (linesOf unit depth (if children.isEmpty then [] else [.container name children])).reverse
        ++ kept := by
  by_cases hnil : children = []
  · subst hnil
    refine keepLine_of_both ?_ ?_ kept
    · rw [closesContainer_indented hunit, closesContainer_closeText]
    · rw [opensContainer_indented hunit, opensContainer_openText]
  · obtain ⟨front, line, hlines, hopens⟩ := linesOf_eq_concat hunit (depth + 1) hnil hshut
    have hline : opensContainer line = false := hopens.trans hend
    have hsome : children.isEmpty = false := by simpa using hnil
    rw [hlines, List.reverse_append, List.reverse_singleton, List.singleton_append,
      List.cons_append, keepLine_of_not_opens hline, hsome]
    simp [linesOf, Node.lines, hlines]

end Collapse

mutual

theorem Node.foldl_keepLine_lines {unit : Text} (hunit : unit.isBlank) (depth : Int) :
    ∀ {node : Node}, node.Shut → node.isMisread = false → ∀ kept,
      (node.lines unit depth).foldl keepLine kept
        = (linesOf unit depth node.withoutEmpty).reverse ++ kept
  | .comment content, _, _, kept =>
    keepLine_of_not_closes (closesContainer_commentLine unit depth content) kept
  | .pair _ key value, _, _, kept =>
    keepLine_of_not_closes (closesContainer_pairLine unit depth key value) kept
  | .container name children, hshut, hread, kept => by
    rw [Node.isMisread, Bool.or_eq_false_iff] at hread
    have ih := foldl_keepLine_linesOf hunit (depth + 1) hshut hread.1
    rw [Node.lines, foldl_keepLine_wrap (closesContainer_openLine unit depth name), ih]
    exact keepLine_closeLine hunit depth name (shut_withoutEmpty hshut) hread.2 kept

/-- The lines of a forest leave those of the forest without its empty containers. -/
theorem foldl_keepLine_linesOf {unit : Text} (hunit : unit.isBlank) (depth : Int) :
    ∀ {nodes : List Node}, Shut nodes → isMisread nodes = false → ∀ kept,
      (linesOf unit depth nodes).foldl keepLine kept
        = (linesOf unit depth (withoutEmpty nodes)).reverse ++ kept
  | [], _, _, _ => rfl
  | node :: rest, hshut, hread, kept => by
    obtain ⟨hfirst, hrest⟩ := shut_cons.1 hshut
    rw [isMisread, Bool.or_eq_false_iff] at hread
    have hnode := Node.foldl_keepLine_lines hunit depth hfirst hread.1 kept
    rw [linesOf, List.foldl_append, hnode, foldl_keepLine_linesOf hunit depth hrest hread.2,
      withoutEmpty, linesOf_append, List.reverse_append, List.append_assoc]

end

mutual

theorem Node.lt_nesting_foldl {unit : Text} (hunit : unit.isBlank) (depth : Int) :
    ∀ {node : Node}, node.Quoted → node.isMisread → ∀ kept,
      nesting kept < nesting ((node.lines unit depth).foldl keepLine kept)
  | .container name children, hquoted, hread, kept => by
    have hopen := nesting_openLine hunit depth name
    have hclose := nesting_closeLine hunit depth
    rw [Node.lines, foldl_keepLine_wrap (closesContainer_openLine unit depth name)]
    have hkept := nesting_cons (indentation unit depth ++ openText name) kept
    cases hchildren : isMisread children with
    | true =>
      have ih := lt_nesting_foldl hunit (depth + 1) hquoted hchildren
        ((indentation unit depth ++ openText name) :: kept)
      have hstep := nesting_keepLine ((linesOf unit (depth + 1) children).foldl keepLine
        ((indentation unit depth ++ openText name) :: kept)) (indentation unit depth ++ closeText)
      omega
    | false =>
      -- The children leave a comment on top, and the closing line takes it for its opening line.
      rw [Node.isMisread, hchildren, Bool.false_or] at hread
      have hne : withoutEmpty children ≠ [] := by
        intro hnil
        rw [hnil] at hread
        simp [endsLikeOpening] at hread
      have hremains := quoted_withoutEmpty hquoted
      obtain ⟨front, line, hlines, hopens⟩ := linesOf_eq_concat hunit (depth + 1) hne hremains.shut
      have hfront : 0 ≤ nesting front :=
        (nested_linesOf hunit (depth + 1) hremains).1 front (hlines ▸ List.prefix_append _ _)
      have hcloses : closesContainer (indentation unit depth ++ closeText) := by
        rw [closesContainer_indented hunit, closesContainer_closeText]
      rw [foldl_keepLine_linesOf hunit (depth + 1) (Quoted.shut hquoted) hchildren, hlines,
        List.reverse_append, List.reverse_singleton, List.singleton_append, List.cons_append,
        keepLine_of_both hcloses (hopens.trans hread), nesting_append, nesting_reverse]
      omega

/-- Where a comment is taken for an opening line, a container stays open. -/
theorem lt_nesting_foldl {unit : Text} (hunit : unit.isBlank) (depth : Int) :
    ∀ {nodes : List Node}, Quoted nodes → isMisread nodes → ∀ kept,
      nesting kept < nesting ((linesOf unit depth nodes).foldl keepLine kept)
  | node :: rest, hquoted, hread, kept => by
    rw [linesOf, List.foldl_append]
    cases hnode : node.isMisread with
    | true =>
      have ih := Node.lt_nesting_foldl hunit depth hquoted.1 hnode kept
      have hrest := nesting_foldl_keepLine (linesOf unit depth rest)
        ((node.lines unit depth).foldl keepLine kept)
      have hzero := (nested_linesOf hunit depth hquoted.2).2
      omega
    | false =>
      rw [isMisread, hnode, Bool.false_or] at hread
      have hremains := nested_linesOf hunit depth (Node.quoted_withoutEmpty hquoted.1)
      have ih := lt_nesting_foldl hunit depth hquoted.2 hread
        ((linesOf unit depth node.withoutEmpty).reverse ++ kept)
      rw [nesting_append, nesting_reverse, hremains.2] at ih
      rw [Node.foldl_keepLine_lines hunit depth hquoted.1.shut hnode]
      omega

end

section Collapse

variable {unit : Text} (hunit : unit.isBlank) (depth : Int) {nodes : List Node}

include hunit

theorem collapse_linesOf (hshut : Shut nodes) (hread : isMisread nodes = false) :
    collapse (linesOf unit depth nodes) = linesOf unit depth (withoutEmpty nodes) := by
  rw [collapse, foldl_keepLine_linesOf hunit depth hshut hread, List.append_nil,
    List.reverse_reverse]

/-- The collapsed lines close all they open exactly if no comment is taken for an opening line. -/
theorem nesting_collapse_linesOf (hquoted : Quoted nodes) :
    nesting (collapse (linesOf unit depth nodes)) = 0 ↔ isMisread nodes = false := by
  constructor
  · intro hzero
    cases hread : isMisread nodes with
    | false => rfl
    | true =>
      have hlt := lt_nesting_foldl hunit depth hquoted hread []
      rw [collapse, nesting_reverse] at hzero
      rw [nesting_nil] at hlt
      omega
  · intro hread
    rw [collapse_linesOf hunit depth hquoted.shut hread]
    exact (nested_linesOf hunit depth (quoted_withoutEmpty hquoted)).2

end Collapse

mutual

theorem Node.foldl_keepLine_withoutEmpty {unit : Text} (hunit : unit.isBlank) (depth : Int) :
    ∀ (node : Node) (kept : List Text), (node.lines unit depth).foldl keepLine kept
      = (linesOf unit depth node.withoutEmpty).foldl keepLine kept
  | .comment _, _ => by simp [Node.withoutEmpty, linesOf]
  | .pair .., _ => by simp [Node.withoutEmpty, linesOf]
  | .container name children, kept => by
    have hopening := closesContainer_openLine unit depth name
    have ih := foldl_keepLine_withoutEmpty hunit (depth + 1) children
    rw [Node.lines, foldl_keepLine_wrap hopening, ih, Node.withoutEmpty]
    split
    next hempty =>
      rw [List.isEmpty_iff.1 hempty]
      refine keepLine_of_both ?_ ?_ kept
      · rw [closesContainer_indented hunit, closesContainer_closeText]
      · rw [opensContainer_indented hunit, opensContainer_openText]
    next => rw [linesOf, linesOf, List.append_nil, Node.lines, foldl_keepLine_wrap hopening]

/-- The lines of empty containers leave nothing, whatever the other lines are taken for. -/
theorem foldl_keepLine_withoutEmpty {unit : Text} (hunit : unit.isBlank) (depth : Int) :
    ∀ (nodes : List Node) (kept : List Text), (linesOf unit depth nodes).foldl keepLine kept
      = (linesOf unit depth (withoutEmpty nodes)).foldl keepLine kept
  | [], _ => rfl
  | node :: rest, kept => by
    rw [linesOf, List.foldl_append, Node.foldl_keepLine_withoutEmpty hunit,
      foldl_keepLine_withoutEmpty hunit depth rest, withoutEmpty, linesOf_append, List.foldl_append]

end

section Append

theorem withoutEmpty_append (s t : List Node) :
    withoutEmpty (s ++ t) = withoutEmpty s ++ withoutEmpty t := by
  induction s with
  | nil => simp [withoutEmpty]
  | cons node rest ih => simp [withoutEmpty, ih]

theorem isMisread_append (s t : List Node) :
    isMisread (s ++ t) = (isMisread s || isMisread t) := by
  induction s with
  | nil => simp [isMisread]
  | cons node rest ih => simp [isMisread, ih, Bool.or_assoc]

theorem endsLikeOpening_append {s t : List Node} (hs : endsLikeOpening s = false)
    (ht : endsLikeOpening t = false) : endsLikeOpening (s ++ t) = false := by
  unfold endsLikeOpening at ht ⊢
  rw [List.getLast?_append]
  cases hlast : t.getLast? with
  | none => exact hs
  | some last => rwa [hlast] at ht

/-- A comment that is not blank ends as its content does. -/
theorem opensContainer_commentText_trim {t : Text} (ht : t.trim ≠ []) :
    opensContainer (commentText t.trim) = ['{'].isSuffixOf t.trim := by
  obtain ⟨front, last, hlast⟩ : ∃ front last, t.trim = front ++ [last] :=
    ⟨_, _, (List.dropLast_concat_getLast ht).symm⟩
  have htrim : (commentText t.trim).trim = commentText t.trim :=
    Text.trim_append_trim (c := '/') rfl ['/', ' '] ht
  have hconcat : commentText t.trim = '/' :: '/' :: ' ' :: front ++ [last] := by
    rw [commentText, hlast]
    rfl
  rw [opensContainer, htrim, hconcat, isSuffixOf_concat, hlast, isSuffixOf_concat]

end Append

/-- No comment in the forest is taken for an opening line, and none will be by what comes next. -/
def Calm (nodes : List Node) : Prop :=
  isMisread nodes = false ∧ endsLikeOpening (withoutEmpty nodes) = false

section Calm

theorem calm_nil : Calm [] :=
  ⟨rfl, rfl⟩

theorem Calm.append {s t : List Node} (hs : Calm s) (ht : Calm t) : Calm (s ++ t) := by
  refine ⟨by rw [isMisread_append, hs.1, ht.1, Bool.or_self], ?_⟩
  rw [withoutEmpty_append]
  exact endsLikeOpening_append hs.2 ht.2

theorem Calm.wrap {nodes : List Node} (h : Calm nodes) (name : Text) :
    Calm [.container name nodes] := by
  refine ⟨by simp [isMisread, Node.isMisread, h.1, h.2], ?_⟩
  simp only [withoutEmpty, Node.withoutEmpty, List.append_nil]
  split <;> rfl

theorem calm_pair (place : Place) (key value : Text) : Calm [.pair place key value] :=
  ⟨rfl, rfl⟩

/-- The pair stands between the comment and the next closing line. -/
theorem calm_noted (content : Text) (place : Place) (key value : Text) :
    Calm [.comment content, .pair place key value] :=
  ⟨rfl, rfl⟩

end Calm

end KeyValues

end MarkedSheet
