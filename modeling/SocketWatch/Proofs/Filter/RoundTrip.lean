import SocketWatch.Proofs.Filter.Derivation

namespace SocketWatch.Grammar

def Negations.canonical (negated : Bool) : Negations :=
  if negated then [noBlanks] else []

def Literal.canonical (text : String) : Literal where
  spans := [.quoted text.toList]
  ne_nil := by simp
  alternate := by simp [Alternating]
  not_or := by
    rintro c d h
    obtain rfl : '"' = c := (List.cons.inj (List.cons.inj h).1).1
    simp [Mask.spellsOr]

def Separator.canonical : Join → Separator
  | .and => .gap oneBlank
  | .or => .or oneBlank 'O' 'R' (by decide) oneBlank

mutual

def Term.canonical : Operand → Term
  | .literal negated text => .literal (.canonical negated) (.canonical text)
  | .group negated inner => .group (.canonical negated) (Expr.canonical inner)

def Expr.canonical : Filter → Expr
  | .empty => .blank noBlanks
  | .chain first rest => .terms noBlanks (Term.canonical first) (Terms.canonical rest)

def Terms.canonical : Joined → Terms
  | .done => .done noBlanks
  | .next join operand rest =>
    .next (.canonical join) (Term.canonical operand) (Terms.canonical rest)

end

theorem Negations.negated_canonical (negated : Bool) :
    Negations.negated (.canonical negated) = negated := by
  cases negated <;> rfl

theorem Separator.join_canonical (join : Join) : (Separator.canonical join).join = join := by
  cases join <;> rfl

mutual

theorem Term.operand_canonical : ∀ operand : Operand, (Term.canonical operand).operand = operand
  | .literal negated text => by
    simp [Term.canonical, Term.operand, Negations.negated_canonical, Literal.canonical,
      Literal.value, Span.value]
  | .group negated inner => by
    rw [Term.canonical, Term.operand, Negations.negated_canonical, Expr.filter_canonical inner]

theorem Expr.filter_canonical : ∀ filter : Filter, (Expr.canonical filter).filter = filter
  | .empty => rfl
  | .chain first rest => by
    rw [Expr.canonical, Expr.filter, Term.operand_canonical first, Terms.joined_canonical rest]

theorem Terms.joined_canonical : ∀ joined : Joined, (Terms.canonical joined).joined = joined
  | .done => rfl
  | .next join operand rest => by
    rw [Terms.canonical, Terms.joined, Separator.join_canonical, Term.operand_canonical operand,
      Terms.joined_canonical rest]

end

theorem Negations.written_canonical (negated : Bool) :
    Negations.written (.canonical negated) = (printNegation negated).toList := by
  cases negated <;> simp [canonical, written, printNegation, noBlanks]

theorem Separator.written_canonical (join : Join) :
    (Separator.canonical join).written = join.print.toList := by
  cases join <;> simp [canonical, written, Join.print, oneBlank]

mutual

theorem Term.written_canonical :
    ∀ operand : Operand, (Term.canonical operand).written = operand.print.toList
  | .literal negated text => by
    simp [Term.canonical, Term.written, Negations.written_canonical, Literal.canonical,
      Literal.written, Span.written, Operand.print, toList_doubleQuotes]
  | .group negated inner => by
    simp [Term.canonical, Term.written, Negations.written_canonical,
      Expr.written_canonical inner, Operand.print]

theorem Expr.written_canonical :
    ∀ filter : Filter, (Expr.canonical filter).written = filter.print.toList
  | .empty => rfl
  | .chain first rest => by
    simp [Expr.canonical, Expr.written, noBlanks, Term.written_canonical first,
      Terms.written_canonical rest, Filter.print]

theorem Terms.written_canonical :
    ∀ joined : Joined, (Terms.canonical joined).written = joined.print.toList
  | .done => rfl
  | .next join operand rest => by
    simp [Terms.canonical, Terms.written, Separator.written_canonical,
      Term.written_canonical operand, Terms.written_canonical rest, Joined.print]

end

end SocketWatch.Grammar

namespace SocketWatch.Filter

theorem utf8ByteSize_print (f : Filter) :
    f.print.utf8ByteSize = (String.ofList (Grammar.Expr.canonical f).written).utf8ByteSize := by
  rw [Grammar.Expr.written_canonical, String.ofList_toList]

/-- However a filter has been made, its canonical text is read as that filter. -/
theorem parse_print (f : Filter) (h : f.print.utf8ByteSize ≤ maxBytes) :
    parse f.print = .ok f := by
  have hread := (Grammar.Expr.canonical f).ofMask_written
  rw [Grammar.Expr.written_canonical, Grammar.Expr.filter_canonical] at hread
  rw [parse_of_le h, hread]

theorem parse_print_of_nested_quotes :
    let f : Filter := .chain
      (.group true (.chain (.literal false "say \"OR\" (!)")
        (.next .or (.group false .empty) .done)))
      (.next .and (.literal true "") .done)
    f.print = "!(\"say \"\"OR\"\" (!)\" OR ()) !\"\"" ∧ f.print.utf8ByteSize ≤ maxBytes ∧
      parse f.print = .ok f := by
  intro f
  have hprint : f.print = "!(\"say \"\"OR\"\" (!)\" OR ()) !\"\"" := by
    rw [← String.toList_inj, ← Grammar.Expr.written_canonical]
    decide
  have hsize : f.print.utf8ByteSize ≤ maxBytes := by
    rw [hprint]
    decide
  exact ⟨hprint, hsize, parse_print f hsize⟩

end SocketWatch.Filter
