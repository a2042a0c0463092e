import MarkedSheet.Emission.Pairs
import MarkedSheet.Proofs.KeyValues.Rewriting

/-!
# A flat list is read back

The document of a sheet with two meaningful columns is read as its root name and, between braces,
the pairs of the sheet (`flatDocument_read_iff`). The one thing in the way is a backslash at the end
of a name, a key or a value: it takes the closing quotation mark with it.
-/

namespace MarkedSheet

open KeyValues (Token tokens HasCrLf EndsWithBackslash keepsQuotes_unixLines unixLines)

namespace Page

/-- The keys that are not blank, without outer blanks, and the values of their rows as they
stand. -/
def heldPairs (keyCol valueCol : Nat) (rows : List Row) : List (Text × Text) :=
  (rows.filter fun row => !(row.cell keyCol).isBlank).map fun row =>
    ((row.cell keyCol).trimmed, (row.cell valueCol).text)

/-- The tokens of pairs. -/
def pairTokens (pairs : List (Text × Text)) : List Token :=
  pairs.flatMap fun pair => [.quoted pair.1, .quoted pair.2]

/-- The tokens of a root block with pairs in it. -/
def listTokens (root : Text) (pairs : List (Text × Text)) : List Token :=
  .quoted root :: .opening :: (pairTokens pairs ++ [.closing])

/-- Neither part of the pair ends with a backslash. -/
def IsClosed (pair : Text × Text) : Prop :=
  ¬ EndsWithBackslash pair.1 ∧ ¬ EndsWithBackslash pair.2

/-- In neither part of the pair a carriage return stands before a line feed. -/
def IsUnix (pair : Text × Text) : Prop :=
  ¬ HasCrLf pair.1 ∧ ¬ HasCrLf pair.2

instance (pair : Text × Text) : Decidable (IsClosed pair) :=
  inferInstanceAs (Decidable (_ ∧ _))

instance (pair : Text × Text) : Decidable (IsUnix pair) :=
  inferInstanceAs (Decidable (_ ∧ _))

theorem flatPairs_eq (keyCol valueCol : Nat) (rows : List Row) :
    flatPairs keyCol valueCol rows = heldPairs keyCol valueCol rows := by
  induction rows with
  | nil => rfl
  | cons row rest ih =>
    simp only [flatPairs, heldPairs, List.filterMap_cons, List.filter_cons] at ih ⊢
    cases (row.cell keyCol).isBlank <;> simp [ih]

section Lines

variable {unit : Text} (hunit : ∀ c ∈ unit, c = ' ' ∨ c = '\t') (depth : Int)

include hunit

theorem indentation_chars : ∀ c ∈ KeyValues.indentation unit depth, c = ' ' ∨ c = '\t' := by
  intro c hc
  obtain ⟨part, hpart, hmem⟩ := List.mem_flatten.1 hc
  rw [(List.mem_replicate.1 hpart).2] at hmem
  split at hmem
  · exact .inr (List.mem_singleton.1 hmem)
  · exact hunit c hmem

/-- The line of a pair is kept when line ends are changed. -/
theorem unixLines_flatLine {pair : Text × Text} (hpair : IsUnix pair) (rest : Text) :
    unixLines (flatLine unit depth pair ++ '\n' :: rest)
      = flatLine unit depth pair ++ '\n' :: unixLines rest := by
  have hindent : ∀ c ∈ KeyValues.indentation unit depth, (!(['\r', '\n'].contains c)) = true := by
    intro c hc
    rcases indentation_chars hunit depth c hc with rfl | rfl <;> rfl
  have hline : ∀ t, flatLine unit depth pair ++ t = KeyValues.indentation unit depth ++
      (KeyValues.quote pair.1 ++ ' ' :: (KeyValues.quote pair.2 ++ t)) := fun t => by
    simp [flatLine]
  rw [hline, hline, keepsQuotes_unixLines.append_left hindent, keepsQuotes_unixLines.quote_append,
    keepsQuotes_unixLines.cons rfl, keepsQuotes_unixLines.quote_append,
    KeyValues.unixLines_newline, KeyValues.unixLines_of_not_hasCrLf hpair.1,
    KeyValues.unixLines_of_not_hasCrLf hpair.2]

/-- The line of a pair is read as the pair exactly if it is closed. -/
theorem tokens_flatLine_iff (pair : Text × Text) (rest : Text) (read : List Token) :
    tokens (flatLine unit depth pair ++ '\n' :: rest)
        = some (.quoted pair.1 :: .quoted pair.2 :: read)
      ↔ IsClosed pair ∧ tokens rest = some read := by
  have hindent : (KeyValues.indentation unit depth).isBlank := by
    rw [Text.isBlank, List.all_eq_true]
    intro c hc
    rcases indentation_chars hunit depth c hc with rfl | rfl <;> rfl
  have hline : flatLine unit depth pair ++ '\n' :: rest = KeyValues.indentation unit depth ++
      (KeyValues.quote pair.1 ++ ' ' :: (KeyValues.quote pair.2 ++ '\n' :: rest)) := by
    simp [flatLine]
  rw [hline, KeyValues.tokens_blanks hindent, KeyValues.tokens_quote_iff,
    KeyValues.tokens_blank rfl, KeyValues.tokens_quote_iff, KeyValues.tokens_newline, IsClosed,
    and_assoc]

/-- The lines of a flat list are read as its pairs exactly if all are closed. -/
theorem tokens_flatLines_iff (rest : Text) (read : List Token) :
    ∀ pairs : List (Text × Text), (∀ pair ∈ pairs, IsUnix pair) →
      (tokens (unixLines ((pairs.map (flatLine unit depth)).flatMap (· ++ ['\n']) ++ rest))
          = some (pairTokens pairs ++ read)
        ↔ (∀ pair ∈ pairs, IsClosed pair) ∧ tokens (unixLines rest) = some read)
  | [], _ => by simp [pairTokens]
  | pair :: pairs, h => by
    have hlines : ((pair :: pairs).map (flatLine unit depth)).flatMap (· ++ ['\n']) ++ rest
        = flatLine unit depth pair ++ '\n' ::
          ((pairs.map (flatLine unit depth)).flatMap (· ++ ['\n']) ++ rest) := by simp
    have htokens : pairTokens (pair :: pairs) ++ read
        = .quoted pair.1 :: .quoted pair.2 :: (pairTokens pairs ++ read) := rfl
    have ih := tokens_flatLines_iff rest read pairs fun p hp => h p (List.mem_cons_of_mem pair hp)
    rw [hlines, htokens, unixLines_flatLine hunit depth (h pair List.mem_cons_self),
      tokens_flatLine_iff hunit, ih, List.forall_mem_cons, and_assoc]

end Lines

/-- The document of a sheet with two columns is read as its root name and its pairs exactly if no
name, key or value ends with a backslash. -/
theorem flatDocument_read_iff (page : Page) {keyCol valueCol : Nat}
    (hcols : page.schema.meaningful = [keyCol, valueCol]) {unit : Text}
    (hunit : ∀ c ∈ unit, c = ' ' ∨ c = '\t') (depth : Int) {source sheet root : Text}
    (hsource : '\n' ∉ source) (hsheet : '\n' ∉ sheet) (hroot : ¬ HasCrLf root)
    (hpairs : ∀ pair ∈ heldPairs keyCol valueCol page.rows, IsUnix pair) :
    ∃ lines, page.flatLines unit depth = .ok lines ∧
      (tokens (KeyValues.document source sheet root lines)
          = some (listTokens root (heldPairs keyCol valueCol page.rows))
        ↔ ¬ EndsWithBackslash root ∧
          ∀ pair ∈ heldPairs keyCol valueCol page.rows, IsClosed pair) := by
  generalize hheld : heldPairs keyCol valueCol page.rows = pairs at hpairs ⊢
  refine ⟨pairs.map (flatLine unit depth), ?_, ?_⟩
  · rw [flatLines, hcols, ← hheld, ← flatPairs_eq]
  · have hlines : ∀ line ∈ pairs.map (flatLine unit depth), line ≠ [] := by
      intro line hline
      obtain ⟨pair, -, rfl⟩ := List.mem_map.1 hline
      simp [flatLine]
    rw [KeyValues.tokens_document hsource hsheet, KeyValues.rootBlock_eq root hlines,
      keepsQuotes_unixLines.quote_append, KeyValues.unixLines_newline,
      keepsQuotes_unixLines.cons rfl, KeyValues.unixLines_newline,
      KeyValues.unixLines_of_not_hasCrLf hroot, listTokens, KeyValues.tokens_quote_iff,
      KeyValues.tokens_newline, KeyValues.tokens_opening, KeyValues.tokens_newline]
    have hbody := tokens_flatLines_iff hunit depth ['}', '\n'] [.closing] pairs hpairs
    have hend : tokens (unixLines ['}', '\n']) = some [.closing] := rfl
    rw [hend] at hbody
    simpa [Option.map_eq_some_iff] using fun _ => hbody

/-- Greetings with marks of the format in them; the last key is blank. -/
def greetings : Page where
  schema := .ofTitles [some "key".toList, some "text".toList]
  rows := [[some [' ', 'a', '"'], some ['"', '\n', '{', ' ']], [some ['b'], none],
    [some [' '], some ['c']]]

theorem greetings_read :
    greetings.schema.meaningful = [0, 1] ∧ (∀ c ∈ [' ', '\t'], c = ' ' ∨ c = '\t')
      ∧ (∀ pair ∈ heldPairs 0 1 greetings.rows, IsUnix pair)
      ∧ ∃ lines, greetings.flatLines [' ', '\t'] 1 = .ok lines ∧
        tokens (KeyValues.document "talk.csv".toList "talk".toList "talk".toList lines)
          = some [.quoted "talk".toList, .opening, .quoted ['a', '"'],
              .quoted ['"', '\n', '{', ' '], .quoted ['b'], .quoted [], .closing] := by
  have hcols : greetings.schema.meaningful = [0, 1] := by decide
  have hunit : ∀ c ∈ [' ', '\t'], c = ' ' ∨ c = '\t' := by simp
  have hunix : ∀ pair ∈ heldPairs 0 1 greetings.rows, IsUnix pair := by decide
  obtain ⟨lines, hlines, hread⟩ := flatDocument_read_iff greetings hcols hunit 1
    (by decide : '\n' ∉ "talk.csv".toList) (by decide : '\n' ∉ "talk".toList)
    (by decide : ¬ HasCrLf "talk".toList) hunix
  exact ⟨hcols, hunit, hunix, lines, hlines, hread.2 ⟨by decide, by decide⟩⟩

end Page

end MarkedSheet
