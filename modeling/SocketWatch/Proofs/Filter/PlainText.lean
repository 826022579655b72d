import SocketWatch.Proofs.Filter.Derivation
import SocketWatch.Proofs.Filter.SmallLetters
import SocketWatch.Proofs.Text.Runs

namespace SocketWatch

theorem Text.toLower_eq_iff {c d : Char} (hd : d = 'o' ∨ d = 'r') :
    c.toLower = d ↔ c = d ∨ c = d.toUpper := by
  by_cases h : c.toNat < 128
  · apply of_ascii _ h
    rcases hd with rfl | rfl <;> decide +kernel
  · rw [toLower_of_le (Nat.not_lt.mp h)]
    have hne : c ≠ d.toUpper := by
      rintro rfl
      rcases hd with rfl | rfl <;> exact absurd (by decide) h
    simp [hne]

theorem Mask.spellsOr_iff {c d : Char} :
    spellsOr c d ↔ [c, d].map Char.toLower = ['o', 'r'] := by
  have ho := Text.toLower_eq_iff (c := c) (d := 'o') (.inl rfl)
  have hr := Text.toLower_eq_iff (c := d) (d := 'r') (.inr rfl)
  simp [spellsOr, ho, hr]

def Grammar.Unmarked (c : Char) : Prop := c ≠ '"' ∧ c ≠ '(' ∧ c ≠ ')' ∧ c ≠ '!'

namespace Filter

structure IsWord (text word : String) : Prop where
  ne_empty : word ≠ ""
  no_gap : ∀ c ∈ word.toList, Mask.isGap c = false
  bounded : ∃ before after, text.toList = before ++ (word.toList ++ after) ∧
    (∀ c ∈ before.getLast?, Mask.isGap c) ∧ ∀ c ∈ after.head?, Mask.isGap c

theorem isWord_self {text : String} (hne : text ≠ "")
    (hgap : ∀ c ∈ text.toList, Mask.isGap c = false) : IsWord text text :=
  ⟨hne, hgap, [], [], by simp, by simp, by simp⟩

theorem mem_words_iff {text word : String} : word ∈ words text ↔ IsWord text word := by
  have hmem : word ∈ words text ↔ word.toList ∈ (words text).map String.toList :=
    (List.mem_map_of_injective fun _ _ => String.toList_injective).symm
  rw [hmem, toList_words, List.mem_filter, Text.mem_splitOnP_iff]
  constructor
  · rintro ⟨⟨hgap, hbounded⟩, hne⟩
    exact ⟨by simpa using hne, hgap, hbounded⟩
  · rintro ⟨hne, hgap, hbounded⟩
    exact ⟨⟨hgap, hbounded⟩, by simpa using hne⟩

structure Plain (text : String) : Prop where
  unmarked : ∀ c ∈ text.toList, Grammar.Unmarked c
  no_join : ∀ word, IsWord text word → Text.small word ≠ "or"

end Filter

namespace Grammar

theorem Unmarked.isFree {c : Char} (h : Unmarked c) (hgap : Mask.isGap c = false) : isFree c :=
  isFree_iff.mpr ⟨hgap, h⟩

theorem exists_literal {word : List Char} (hne : word ≠ [])
    (hgap : ∀ c ∈ word, Mask.isGap c = false) (hmarks : ∀ c ∈ word, Unmarked c)
    (hor : word.map Char.toLower ≠ ['o', 'r']) :
    ∃ literal : Literal, literal.written = word ∧ literal.value = word := by
  have hfree : ∀ c ∈ word, isFree c := fun c hc => (hmarks c hc).isFree (hgap c hc)
  have hspells : ∀ c d, word = [c, d] → ¬ Mask.spellsOr c d := by
    rintro c d rfl hspells
    exact hor (Mask.spellsOr_iff.mp hspells)
  let literal : Literal :=
    { spans := [.free word hne hfree]
      ne_nil := by simp
      alternate := by simp [Alternating]
      not_or := by simpa [Span.written] using hspells }
  exact ⟨literal, by simp [literal, Literal.written, Span.written],
    by simp [literal, Literal.value, Span.value]⟩

theorem exists_terms {words : List (List Char)} {text : List Char}
    (h : Text.Runs Mask.isGap words text) (hmarks : ∀ c ∈ text, Unmarked c)
    (hor : ∀ word ∈ words, word.map Char.toLower ≠ ['o', 'r'])
    (hstart : ∀ c ∈ text.head?, Mask.isGap c) :
    ∃ terms : Terms, terms.written = text ∧
      terms.joined = .ofList (words.map fun word => (.and, .literal false (.ofList word))) := by
  induction h with
  | @done gap hgap => exact ⟨.done ⟨gap, hgap⟩, rfl, rfl⟩
  | @run gap word text words hgap hne hword htext h ih =>
    obtain ⟨terms, hwritten, hjoined⟩ := ih (fun c hc => hmarks c (by simp [hc]))
      (fun word hmem => hor word (by simp [hmem])) htext
    obtain ⟨literal, hliteral, hvalue⟩ :=
      exists_literal hne hword (fun c hc => hmarks c (by simp [hc])) (hor word (by simp))
    have hblank : gap ≠ [] := by
      rintro rfl
      obtain ⟨c, more, rfl⟩ := List.exists_cons_of_ne_nil hne
      have hfalse := hword c (by simp)
      rw [hstart c rfl] at hfalse
      cases hfalse
    refine ⟨.next (.gap ⟨gap, hblank, hgap⟩) (.literal [] literal) terms, ?_, ?_⟩
    · simp [Terms.written, Separator.written, Term.written, Negations.written, hliteral, hwritten]
    · simp [Terms.joined, Separator.join, Term.operand, Negations.negated, hvalue, hjoined,
        Joined.ofList]

theorem exists_expr {words : List (List Char)} {text : List Char}
    (h : Text.Runs Mask.isGap words text) (hmarks : ∀ c ∈ text, Unmarked c)
    (hor : ∀ word ∈ words, word.map Char.toLower ≠ ['o', 'r']) :
    ∃ expr : Expr, expr.written = text ∧
      expr.filter = .ofList (words.map fun word => (.and, .literal false (.ofList word))) := by
  cases h with
  | @done gap hgap => exact ⟨.blank ⟨text, hgap⟩, rfl, rfl⟩
  | @run gap word text words hgap hne hword htext h =>
    obtain ⟨terms, hwritten, hjoined⟩ := exists_terms h (fun c hc => hmarks c (by simp [hc]))
      (fun word hmem => hor word (by simp [hmem])) htext
    obtain ⟨literal, hliteral, hvalue⟩ :=
      exists_literal hne hword (fun c hc => hmarks c (by simp [hc])) (hor word (by simp))
    refine ⟨.terms ⟨gap, hgap⟩ (.literal [] literal) terms, ?_, ?_⟩
    · simp [Expr.written, Term.written, Negations.written, hliteral, hwritten]
    · simp [Expr.filter, Term.operand, Negations.negated, hvalue, hjoined, Filter.ofList]

end Grammar

namespace Filter

theorem map_toList_words (text : String) :
    (words text).map String.toList = Text.runs Mask.isGap text.toList := by
  rw [toList_words, Text.runs]
  congr 1
  funext word
  cases word <;> rfl

theorem parse_of_plain {text : String} (h : Plain text) : parse text = parseWords text := by
  have hruns := Text.runs_eq_iff.mp (map_toList_words text).symm
  have hor : ∀ word ∈ (words text).map String.toList,
      word.map Char.toLower ≠ ['o', 'r'] := by
    intro word hmem
    obtain ⟨word, hword, rfl⟩ := List.mem_map.mp hmem
    rw [← Text.toList_small]
    exact fun hsmall => h.no_join word (mem_words_iff.mp hword) (String.toList_injective hsmall)
  obtain ⟨expr, hwritten, hfilter⟩ := Grammar.exists_expr hruns h.unmarked hor
  have hwords : ((words text).map String.toList).map
      (fun word => (Join.and, Operand.literal false (.ofList word))) =
        (words text).map fun word => (.and, .literal false word) := by
    simp [Function.comp_def]
  have hread := expr.ofMask_written
  rw [hwritten, hfilter, hwords] at hread
  rw [parse, parseWithMask, mask, parseWords]
  cases checkSize text with
  | error failure => rfl
  | ok _ => exact congrArg Except.ok hread

end Filter

end SocketWatch
