import Mathlib.Data.List.Chain
import SocketWatch.Filter.Reading
import SocketWatch.Filter.Basic

/-!
The language of filters as it is meant to be typed. A derivation is a tree that keeps every choice
of the writer: blanks, spans of a literal, negations and the letters of a join. It has a written
form and it means a filter; nothing here knows how texts are read.
-/

namespace SocketWatch.Grammar

def isFree (c : Char) : Bool :=
  !Mask.isGap c && c != '"' && c != '(' && c != ')' && c != '!'

abbrev Blanks := {cs : List Char // ∀ c ∈ cs, Mask.isGap c}

abbrev Gap := {cs : List Char // cs ≠ [] ∧ ∀ c ∈ cs, Mask.isGap c}

def noBlanks : Blanks := ⟨[], by simp⟩

def oneBlank : Gap := ⟨[' '], by simp [Mask.isGap]⟩

inductive Span where
  | free (chars : List Char) (ne_nil : chars ≠ []) (all_free : ∀ c ∈ chars, isFree c)
  | quoted (body : List Char)

namespace Span

def isQuoted : Span → Bool
  | .free .. => false
  | .quoted _ => true

def written : Span → List Char
  | .free chars .. => chars
  | .quoted body => '"' :: (body.flatMap doubled ++ ['"'])

def value : Span → List Char
  | .free chars .. => chars
  | .quoted body => body

end Span

abbrev Alternating (spans : List Span) : Prop :=
  spans.IsChain fun a b => a.isQuoted ≠ b.isQuoted

/-- Two free spans side by side would be one, and so would two quoted ones; a free span alone must
not be the word of a join. -/
structure Literal where
  spans : List Span
  ne_nil : spans ≠ []
  alternate : Alternating spans
  not_or : ∀ c d, spans.map Span.written = [[c, d]] → ¬ Mask.spellsOr c d

namespace Literal

def written (literal : Literal) : List Char := literal.spans.flatMap Span.written

def value (literal : Literal) : List Char := literal.spans.flatMap Span.value

end Literal

inductive Separator where
  | gap (blanks : Gap)
  | or (before : Gap) (c d : Char) (spells : Mask.spellsOr c d) (after : Gap)

namespace Separator

def written : Separator → List Char
  | .gap blanks => blanks.val
  | .or before c d _ after => before.val ++ c :: d :: after.val

def join : Separator → Join
  | .gap _ => .and
  | .or .. => .or

end Separator

abbrev Negations := List Blanks

namespace Negations

def written (marks : Negations) : List Char := marks.flatMap fun blanks => '!' :: blanks.val

def negated (marks : Negations) : Bool := marks.length % 2 == 1

end Negations

mutual

inductive Term where
  | literal (marks : Negations) (literal : Literal)
  | group (marks : Negations) (inner : Expr)

inductive Expr where
  | blank (blanks : Blanks)
  | terms (before : Blanks) (first : Term) (rest : Terms)

inductive Terms where
  | done (after : Blanks)
  | next (separator : Separator) (term : Term) (rest : Terms)

end

mutual

def Term.written : Term → List Char
  | .literal marks literal => marks.written ++ literal.written
  | .group marks inner => marks.written ++ '(' :: (inner.written ++ [')'])

def Expr.written : Expr → List Char
  | .blank blanks => blanks.val
  | .terms before first rest => before.val ++ (first.written ++ rest.written)

def Terms.written : Terms → List Char
  | .done after => after.val
  | .next separator term rest => separator.written ++ (term.written ++ rest.written)

end

mutual

def Term.operand : Term → Operand
  | .literal marks literal => .literal marks.negated (String.ofList literal.value)
  | .group marks inner => .group marks.negated inner.filter

def Expr.filter : Expr → Filter
  | .blank _ => .empty
  | .terms _ first rest => .chain first.operand rest.joined

def Terms.joined : Terms → Joined
  | .done _ => .done
  | .next separator term rest => .next separator.join term.operand rest.joined

end

end SocketWatch.Grammar
