import SocketWatch.Proofs.Filter.Passes

namespace SocketWatch.Grammar

open Token (extend undouble ofMask)

theorem extend_extend (a b : List Char) (tokens : List Token) :
    extend a (extend b tokens) = extend (a ++ b) tokens := by
  match tokens with
  | .literal c :: tokens => simp [extend]
  | [] | .gap :: _ | .or :: _ | .not :: _ | .opening :: _ | .closing :: _ => simp [extend]

theorem undouble_doubled (cs : List Char) : undouble (cs.flatMap doubled) = cs := by
  induction cs with
  | nil => rfl
  | cons c cs ih =>
    by_cases hc : c = '"'
    · simp [hc, doubled, undouble, ih]
    · simp [hc, doubled, undouble, ih]

theorem ofMask_run {role : Role} (hrole : role = .word ∨ role = .quoted) {cs : List Char}
    (hne : cs ≠ []) (w : List (Char × Role)) :
    ofMask (cs.map (fun c => (c, role)) ++ w) = extend cs (ofMask w) := by
  have hstep (c : Char) (w : List (Char × Role)) :
      ofMask ((c, role) :: w) = extend [c] (ofMask w) := by
    rcases hrole with rfl | rfl <;> rfl
  induction cs with
  | nil => exact absurd rfl hne
  | cons c cs ih =>
    rw [List.map_cons, List.cons_append, hstep]
    by_cases hcs : cs = []
    · simp [hcs]
    · simp [ih hcs, extend_extend]

theorem ofMask_quoted (cs : List Char) (w : List (Char × Role)) :
    ofMask (cs.map (fun c => (c, .quoted)) ++ ('"', .quote) :: w) = extend cs (ofMask w) := by
  induction cs with
  | nil => rfl
  | cons c cs ih => simp [ofMask, ih, extend_extend]

theorem flatMap_doubled_of_free {cs : List Char} (h : ∀ c ∈ cs, isFree c) :
    cs.flatMap doubled = cs := by
  induction cs with
  | nil => rfl
  | cons c cs ih =>
    have hc : c ≠ '"' := (isFree_iff.mp (h c (by simp))).2.1
    simp [doubled, hc, ih fun x hx => h x (by simp [hx])]

theorem Span.ofMask_marked (span : Span) (w : List (Char × Role)) :
    ofMask (span.marked ++ w) = extend (span.value.flatMap doubled) (ofMask w) := by
  cases span with
  | free chars hne hfree =>
    simp only [marked, value, flatMap_doubled_of_free hfree, ofMask_run (.inl rfl) hne]
  | quoted body =>
    simp [marked, value, ofMask, ofMask_quoted, extend_extend]

def Parted (w : List (Char × Role)) : Prop := ∀ c ∈ w.head?, c.2 = .gap ∨ c.2 = .closing

theorem Parted.extend {w : List (Char × Role)} (h : Parted w) (written : List Char) :
    extend written (ofMask w) = .literal written :: ofMask w := by
  match w with
  | [] => rfl
  | (c, role) :: w =>
    rcases h (c, role) rfl with rfl | rfl <;> rfl

theorem Literal.ofMask_marked (literal : Literal) {w : List (Char × Role)} (h : Parted w) :
    ofMask (literal.marked ++ w) = .literal (literal.value.flatMap doubled) :: ofMask w := by
  have hspans : ∀ spans : List Span, spans ≠ [] →
      ofMask (spans.flatMap Span.marked ++ w) =
        Token.extend ((spans.flatMap Span.value).flatMap doubled) (ofMask w) := by
    intro spans hne
    induction spans with
    | nil => exact absurd rfl hne
    | cons span spans ih =>
      by_cases hs : spans = []
      · simp [hs, Span.ofMask_marked]
      · simp only [List.flatMap_cons, List.append_assoc, Span.ofMask_marked, ih hs, extend_extend,
          List.flatMap_append]
  rw [marked, hspans _ literal.ne_nil, h.extend, value]

def readFrom (reading : Reading) (w : List (Char × Role)) : Reading :=
  (ofMask w).foldl Reading.step reading

theorem readFrom_blanks (reading : Reading) (cs : List Char) (w : List (Char × Role)) :
    readFrom reading (markBlanks cs ++ w) = readFrom reading w := by
  induction cs with
  | nil => rfl
  | cons c cs ih => simpa [readFrom, markBlanks, ofMask, Reading.step] using ih

theorem readFrom_negations (marks : Negations) (level : Level) (around : List Level)
    (w : List (Char × Role)) :
    readFrom { current := level, around } (marks.marked ++ w) =
      readFrom { current := { level with negated := level.negated ^^ marks.negated }, around }
        w := by
  induction marks generalizing level with
  | nil => simp [Negations.marked, Negations.negated]
  | cons blanks marks ih =>
    have hodd : Negations.negated (blanks :: marks) = !Negations.negated marks := by
      simp only [Negations.negated, List.length_cons]
      rcases Nat.mod_two_eq_zero_or_one marks.length with h | h <;> simp [Nat.add_mod, h]
    have hmarks := ih { level with negated := !level.negated }
    have hstep : readFrom { current := level, around } (Negations.marked (blanks :: marks) ++ w) =
        readFrom { current := { level with negated := !level.negated }, around }
          (markBlanks blanks ++ (Negations.marked marks ++ w)) := by
      simp only [Negations.marked, List.flatMap_cons, List.cons_append, List.append_assoc]
      rfl
    rw [hstep, readFrom_blanks, hmarks, hodd]
    simp

theorem Terms.parted {w : List (Char × Role)} (h : Parted w) :
    ∀ terms : Terms, Parted (terms.marked ++ w)
  | .done ⟨[], _⟩ => h
  | .done ⟨c :: cs, _⟩ => by rintro x ⟨rfl⟩; exact Or.inl rfl
  | .next (.gap ⟨[], hne, _⟩) _ _ | .next (.or ⟨[], hne, _⟩ _ _ _ _) _ _ => absurd rfl hne
  | .next (.gap ⟨c :: cs, _⟩) _ _ | .next (.or ⟨c :: cs, _⟩ _ _ _ _) _ _ => by
    rintro x ⟨rfl⟩
    exact Or.inl rfl

mutual

theorem Term.readFrom_marked {w : List (Char × Role)} (h : Parted w) :
    ∀ (term : Term) (operands : List (Join × Operand)) (join : Join) (around : List Level),
      readFrom { current := { operands, join }, around } (term.marked ++ w) =
        readFrom { current := { operands := (join, term.operand) :: operands }, around } w
  | .literal marks literal, operands, join, around => by
    rw [Term.marked, List.append_assoc, readFrom_negations, readFrom, literal.ofMask_marked h]
    simp [readFrom, Reading.step, Level.push, undouble_doubled, Term.operand]
  | .group marks inner, operands, join, around => by
    have hclose : Parted ((')', .closing) :: w) := by rintro x ⟨rfl⟩; exact Or.inr rfl
    have hinner := Expr.readFrom_marked hclose inner
      ({ operands, join, negated := marks.negated } :: around)
    rw [Term.marked, List.append_assoc, readFrom_negations]
    simp only [Bool.false_bne, List.cons_append, List.append_assoc, List.nil_append]
    calc readFrom { current := { operands, join, negated := marks.negated }, around }
          (('(', .opening) :: (inner.marked ++ (')', .closing) :: w))
        = readFrom
            { current := {}, around := { operands, join, negated := marks.negated } :: around }
            (inner.marked ++ (')', .closing) :: w) := rfl
      _ = readFrom { current := { operands := inner.filter.toList.reverse },
                     around := { operands, join, negated := marks.negated } :: around }
            ((')', .closing) :: w) := hinner
      _ = readFrom
            { current := { operands := (join, (Term.group marks inner).operand) :: operands },
              around } w := by
          simp [readFrom, ofMask, Reading.step, Level.close, Level.push, Level.filter, Term.operand]

theorem Expr.readFrom_marked {w : List (Char × Role)} (h : Parted w) :
    ∀ (expr : Expr) (around : List Level),
      readFrom { current := {}, around } (expr.marked ++ w) =
        readFrom { current := { operands := expr.filter.toList.reverse }, around } w
  | .blank blanks, around => readFrom_blanks _ blanks w
  | .terms before first rest, around => by
    have hfirst := Term.readFrom_marked (Terms.parted h rest) first [] .and around
    have hrest := Terms.readFrom_marked h rest [(.and, first.operand)] around
    rw [Expr.marked, List.append_assoc, List.append_assoc, readFrom_blanks, hfirst, hrest]
    simp [Expr.filter, Filter.toList]

theorem Terms.readFrom_marked {w : List (Char × Role)} (h : Parted w) :
    ∀ (terms : Terms) (operands : List (Join × Operand)) (around : List Level),
      readFrom { current := { operands }, around } (terms.marked ++ w) =
        readFrom { current := { operands := terms.joined.toList.reverse ++ operands }, around } w
  | .done after, operands, around => readFrom_blanks _ after w
  | .next separator term rest, operands, around => by
    have hterm := Term.readFrom_marked (Terms.parted h rest) term operands separator.join around
    have hrest := Terms.readFrom_marked h rest ((separator.join, term.operand) :: operands) around
    have hseparator (v : List (Char × Role)) :
        readFrom { current := { operands }, around } (separator.marked ++ v) =
          readFrom { current := { operands, join := separator.join }, around } v := by
      cases separator with
      | gap blanks => exact readFrom_blanks _ blanks v
      | or before c d hs after =>
        rw [Separator.marked, List.append_assoc, readFrom_blanks]
        exact readFrom_blanks _ after v
    rw [Terms.marked, List.append_assoc, List.append_assoc, hseparator, hterm, hrest]
    simp [Terms.joined, Joined.toList]

end

theorem Expr.ofMask_written (expr : Expr) :
    Filter.ofMask expr.written (Mask.ofChars expr.written) = expr.filter := by
  have hzip : expr.written.zip (expr.marked.map Prod.snd) = expr.marked := by
    rw [← expr.marked_fst, ← List.unzip_fst, ← List.unzip_snd, List.zip_unzip]
  have hend : Parted [] := by simp [Parted]
  have hread := Expr.readFrom_marked hend expr []
  rw [List.append_nil] at hread
  rw [ofChars_written, Filter.ofMask, Filter.ofTokens, hzip]
  change (readFrom {} expr.marked).filter = expr.filter
  rw [hread]
  simp [readFrom, ofMask, Reading.filter, Level.filter]

/-- Whatever layout, spans and spelling a writer chooses, the text is read as what it was written
for. -/
theorem parse_written (expr : Expr) (text : String) (h : text.toList = expr.written)
    (hsize : text.utf8ByteSize ≤ Filter.maxBytes) : Filter.parse text = .ok expr.filter := by
  rw [Filter.parse_of_le hsize, h, expr.ofMask_written]

def gluedExample : Expr :=
  .terms ⟨[' '], by simp [Mask.isGap]⟩
    (.group [noBlanks]
      (.terms noBlanks
        (.literal []
          { spans :=
              [.free ['a'] (by simp) (by simp [isFree_iff, Mask.isGap]), .quoted [' ', '"', ')']]
            ne_nil := by simp
            alternate := by simp [Alternating, Span.isQuoted]
            not_or := by simp })
        (.next
          (.or ⟨['\t'], by simp [Mask.isGap]⟩ 'o' 'R' (by decide)
            ⟨[' ', '\n'], by simp [Mask.isGap]⟩)
          (.literal []
            { spans := [.free ['o', 'r', 'b'] (by simp) (by simp [isFree_iff, Mask.isGap])]
              ne_nil := by simp
              alternate := by simp [Alternating]
              not_or := by simp [Span.written] })
          (.done ⟨[' '], by simp [Mask.isGap]⟩))))
    (.next (.gap oneBlank)
      (.literal [⟨[' '], by simp [Mask.isGap]⟩, noBlanks]
        { spans := [.quoted ['O', 'R']]
          ne_nil := by simp
          alternate := by simp [Alternating]
          not_or := by simp [Span.written, doubled] })
      (.done noBlanks))

theorem parse_written_glued :
    let text := " !(a\" \"\")\"\toR \norb ) ! !\"OR\""
    text.toList = gluedExample.written ∧ text.utf8ByteSize ≤ Filter.maxBytes ∧
      Filter.parse text = .ok (.chain
        (.group true (.chain (.literal false "a \")") (.next .or (.literal false "orb") .done)))
        (.next .and (.literal false "OR") .done)) :=
  ⟨by decide, by decide, parse_written gluedExample _ (by decide) (by decide)⟩

end SocketWatch.Grammar
