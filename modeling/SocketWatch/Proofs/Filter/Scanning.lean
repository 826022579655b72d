import SocketWatch.Proofs.Filter.Grammar

namespace SocketWatch.Grammar

open Mask

def markBlanks (cs : List Char) : List (Char × Role) := cs.map fun c => (c, .gap)

def Span.marked : Span → List (Char × Role)
  | .free chars .. => chars.map fun c => (c, .word)
  | .quoted body =>
    ('"', .quote) :: ((body.flatMap doubled).map (fun c => (c, .quoted)) ++ [('"', .quote)])

def Literal.marked (literal : Literal) : List (Char × Role) := literal.spans.flatMap Span.marked

def Separator.marked : Separator → List (Char × Role)
  | .gap blanks => markBlanks blanks
  | .or before c d _ after => markBlanks before ++ (c, .or) :: (d, .or) :: markBlanks after

def Negations.marked (marks : Negations) : List (Char × Role) :=
  marks.flatMap fun blanks : Blanks => ('!', .not) :: markBlanks blanks

mutual

def Term.marked : Term → List (Char × Role)
  | .literal marks literal => marks.marked ++ literal.marked
  | .group marks inner => marks.marked ++ ('(', .opening) :: (inner.marked ++ [(')', .closing)])

def Expr.marked : Expr → List (Char × Role)
  | .blank blanks => markBlanks blanks
  | .terms before first rest => markBlanks before ++ (first.marked ++ rest.marked)

def Terms.marked : Terms → List (Char × Role)
  | .done after => markBlanks after
  | .next separator term rest => separator.marked ++ (term.marked ++ rest.marked)

end

@[simp] theorem markBlanks_fst (cs : List Char) : (markBlanks cs).map Prod.fst = cs := by
  simp [markBlanks, Function.comp_def]

@[simp] theorem Span.marked_fst (span : Span) : span.marked.map Prod.fst = span.written := by
  cases span <;> simp [marked, written, Function.comp_def]

@[simp] theorem Literal.marked_fst (literal : Literal) :
    literal.marked.map Prod.fst = literal.written := by
  simp [marked, written, List.map_flatMap]

@[simp] theorem Separator.marked_fst (separator : Separator) :
    separator.marked.map Prod.fst = separator.written := by
  cases separator <;> simp [marked, written]

@[simp] theorem Negations.marked_fst (marks : Negations) :
    marks.marked.map Prod.fst = marks.written := by
  simp [marked, written, List.map_flatMap]

mutual

@[simp] theorem Term.marked_fst : ∀ term : Term, term.marked.map Prod.fst = term.written
  | .literal marks literal => by simp [Term.marked, Term.written]
  | .group marks inner => by simp [Term.marked, Term.written, Expr.marked_fst inner]

@[simp] theorem Expr.marked_fst : ∀ expr : Expr, expr.marked.map Prod.fst = expr.written
  | .blank blanks => by simp [Expr.marked, Expr.written]
  | .terms before first rest => by
    simp [Expr.marked, Expr.written, Term.marked_fst first, Terms.marked_fst rest]

@[simp] theorem Terms.marked_fst : ∀ terms : Terms, terms.marked.map Prod.fst = terms.written
  | .done after => by simp [Terms.marked, Terms.written]
  | .next separator term rest => by
    simp [Terms.marked, Terms.written, Term.marked_fst term, Terms.marked_fst rest]

end

theorem scan_ahead (prev : Role) (depth : Nat) (ahead : List Role) (cs u : List Char)
    (h : cs.length = ahead.length) :
    scan prev depth ahead (cs ++ u) = ahead ++ scan prev depth [] u := by
  induction cs generalizing ahead with
  | nil =>
    obtain rfl := List.length_eq_zero_iff.mp h.symm
    rfl
  | cons c cs ih =>
    cases ahead with
    | nil => simp at h
    | cons role ahead => simp [scan, ih ahead (by simpa using h)]

theorem scan_gap (prev : Role) (depth : Nat) {c : Char} (hc : isGap c) (u : List Char) :
    scan prev depth [] (c :: u) = .gap :: scan .gap depth [] u := by
  simp [scan, hc]

theorem scan_gaps (depth : Nat) (cs u : List Char) (h : ∀ c ∈ cs, isGap c) :
    scan .gap depth [] (cs ++ u) = (markBlanks cs).map Prod.snd ++ scan .gap depth [] u := by
  induction cs with
  | nil => rfl
  | cons c cs ih =>
    have hcs : ∀ x ∈ cs, isGap x := by
      intro x hx
      exact h x (by simp [hx])
    rw [List.cons_append, scan_gap _ _ (h c (by simp)), ih hcs]
    rfl

theorem scan_gap_run (prev : Role) (depth : Nat) (gap : Gap) (u : List Char) :
    scan prev depth [] (gap.val ++ u) =
      (markBlanks gap).map Prod.snd ++ scan .gap depth [] u := by
  obtain ⟨cs, hne, h⟩ := gap
  cases cs with
  | nil => exact absurd rfl hne
  | cons c cs =>
    have hcs : ∀ x ∈ cs, isGap x := by
      intro x hx
      exact h x (by simp [hx])
    rw [List.cons_append, scan_gap _ _ (h c (by simp)), scan_gaps _ _ _ hcs]
    rfl

theorem scan_blanks {prev : Role} (depth : Nat) (h : prev.admitsOperand) (blanks : Blanks) :
    ∃ next : Role, next.admitsOperand ∧ ∀ u, scan prev depth [] (blanks.val ++ u) =
      (markBlanks blanks).map Prod.snd ++ scan next depth [] u := by
  by_cases hb : blanks.val = []
  · exact ⟨prev, h, fun u => by simp [hb, markBlanks]⟩
  · exact ⟨.gap, rfl, scan_gap_run prev depth ⟨blanks.val, hb, blanks.property⟩⟩

theorem isGap_of_spells {c d : Char} (h : spellsOr c d) : isGap c = false := by
  simp only [spellsOr, Bool.and_eq_true, Bool.or_eq_true, beq_iff_eq] at h
  obtain ⟨rfl | rfl, -⟩ := h <;> decide

theorem scan_or (depth : Nat) {c d e : Char} (h : spellsOr c d) (he : isGap e) (u : List Char) :
    scan .gap depth [] (c :: d :: e :: u) = .or :: .or :: scan .gap depth [] (e :: u) := by
  have hj : joinAt .gap c (d :: e :: u) = some (.or, .gap) := by
    simp [joinAt, Role.admitsJoin, h, he]
  have hc : isGap c = false := isGap_of_spells h
  have hp : c ≠ '(' ∧ c ≠ ')' ∧ c ≠ '"' ∧ c ≠ '!' := by
    simp only [spellsOr, Bool.and_eq_true, Bool.or_eq_true, beq_iff_eq] at h
    obtain ⟨rfl | rfl, -⟩ := h <;> decide
  simp [scan, hc, hp, hj]

theorem isFree_iff {c : Char} :
    isFree c ↔ isGap c = false ∧ c ≠ '"' ∧ c ≠ '(' ∧ c ≠ ')' ∧ c ≠ '!' := by
  simp [isFree, and_assoc]

theorem scan_word {prev : Role} (depth : Nat) {c : Char} {u : List Char}
    (hp : prev.admitsLiteral) (hc : isFree c) (hj : joinAt prev c u = none) :
    scan prev depth [] (c :: u) = .word :: scan .word depth [] u := by
  obtain ⟨hgap, hquote, hopen, hclose, hnot⟩ := isFree_iff.mp hc
  simp [scan, hgap, hquote, hopen, hclose, hnot, hj, hp]

theorem joinAt_of_not_admitsJoin {prev : Role} (h : prev.admitsJoin = false) (c : Char)
    (u : List Char) : joinAt prev c u = none := by
  cases u <;> simp [joinAt, h]

theorem scan_words (depth : Nat) (cs u : List Char) (h : ∀ c ∈ cs, isFree c) :
    scan .word depth [] (cs ++ u) = cs.map (fun _ => .word) ++ scan .word depth [] u := by
  induction cs with
  | nil => rfl
  | cons c cs ih =>
    have hj : joinAt .word c (cs ++ u) = none := joinAt_of_not_admitsJoin rfl c _
    have hcs : ∀ x ∈ cs, isFree x := by
      intro x hx
      exact h x (by simp [hx])
    rw [List.cons_append, scan_word depth rfl (h c (by simp)) hj, ih hcs]
    rfl

theorem bodyLength_doubled (body u : List Char) (hu : u.head? ≠ some '"') :
    bodyLength (body.flatMap doubled ++ '"' :: u) = some (body.flatMap doubled).length := by
  induction body with
  | nil =>
    cases u with
    | nil => rfl
    | cons c u =>
      have hc : c ≠ '"' := by simpa using hu
      simp [bodyLength, hc]
  | cons c body ih =>
    by_cases hc : c = '"'
    · subst hc
      simp [doubled, bodyLength, ih]
    · simp [doubled, hc, bodyLength, ih]

theorem scan_quoted {prev : Role} (depth : Nat) (body u : List Char)
    (hp : prev.admitsLiteral) (hu : u.head? ≠ some '"') :
    scan prev depth [] ('"' :: (body.flatMap doubled ++ '"' :: u)) =
      .quote :: ((body.flatMap doubled).map (fun _ => .quoted) ++
        .quote :: scan .quote depth [] u) := by
  have hb := bodyLength_doubled body u hu
  have hrun := scan_ahead .quote depth
    (List.replicate (body.flatMap doubled).length .quoted ++ [.quote])
    (body.flatMap doubled ++ ['"']) u (by simp)
  simp only [List.append_assoc, List.cons_append, List.nil_append] at hrun
  generalize body.flatMap doubled = written at hb hrun ⊢
  simp [scan, isGap, hb, hp, hrun, List.map_const']

structure Follows (depth : Nat) (u : List Char) (m : Mask) : Prop where
  ends : ∀ c ∈ u.head?, isGap c ∨ c = ')'
  reads : ∀ prev, scan prev depth [] u = m

namespace Follows

theorem not_free {depth : Nat} {u : List Char} {m : Mask} (h : Follows depth u m) :
    ∀ c ∈ u.head?, isFree c = false := by
  intro c hc
  rcases h.ends c hc with hc | rfl
  · simp [isFree, hc]
  · rfl

theorem not_quote {depth : Nat} {u : List Char} {m : Mask} (h : Follows depth u m) :
    u.head? ≠ some '"' := by
  intro hq
  rcases h.ends '"' hq with hc | hc <;> exact absurd hc (by decide)

end Follows

theorem joinAt_free {prev : Role} {c : Char} {cs u : List Char} (hcs : ∀ x ∈ cs, isFree x)
    (hu : ∀ x ∈ u.head?, isFree x = false)
    (hor : ∀ d, cs = [d] → spellsOr c d → u.head? = some '"') :
    joinAt prev c (cs ++ u) = none := by
  match cs, u with
  | [], [] => rfl
  | [], x :: u =>
    have hx : isFree x = false := hu x rfl
    have hr : x ≠ 'r' ∧ x ≠ 'R' := by
      constructor <;> (rintro rfl; exact absurd hx (by decide))
    simp [joinAt, spellsOr, hr]
  | [d], [] =>
    have hs : spellsOr c d = false := by simpa using hor d rfl
    simp [joinAt, hs]
  | [d], x :: u =>
    by_cases hs : spellsOr c d
    · obtain rfl : x = '"' := by simpa using hor d rfl hs
      simp [joinAt, isGap]
    · simp [joinAt, hs]
  | d :: e :: cs, u =>
    obtain ⟨hgap, hquote, hopen, hclose, hnot⟩ := isFree_iff.mp (hcs e (by simp))
    simp [joinAt, hgap, hopen, hclose, hnot]

theorem Span.head_written_quoted {span : Span} (h : span.isQuoted) (u : List Char) :
    (span.written ++ u).head? = some '"' := by
  cases span with
  | free => simp [isQuoted] at h
  | quoted body => rfl

theorem Span.head_written_free {span : Span} (h : span.isQuoted = false) (u : List Char) :
    ∃ c, isFree c ∧ (span.written ++ u).head? = some c := by
  cases span with
  | quoted => simp [isQuoted] at h
  | free chars hne hfree =>
    cases chars with
    | nil => exact absurd rfl hne
    | cons c cs => exact ⟨c, hfree c (by simp), rfl⟩

theorem isQuoted_next {span next : Span} {spans : List Span}
    (h : Alternating (span :: next :: spans)) : next.isQuoted = !span.isQuoted := by
  have hne : span.isQuoted ≠ next.isQuoted := (List.isChain_cons_cons.mp h).1
  exact Bool.eq_not.mpr hne.symm

theorem not_free_of_chain {span : Span} {spans : List Span} {depth : Nat} {u : List Char}
    {m : Mask} (hs : span.isQuoted = false)
    (hc : Alternating (span :: spans)) (hu : Follows depth u m) :
    ∀ c ∈ (spans.flatMap Span.written ++ u).head?, isFree c = false := by
  cases spans with
  | nil => exact hu.not_free
  | cons next spans =>
    have hn : next.isQuoted := by
      rw [isQuoted_next hc, hs]
      rfl
    intro c hc
    rw [List.flatMap_cons, List.append_assoc, Span.head_written_quoted hn] at hc
    obtain rfl := Option.some.inj hc
    rfl

theorem not_quote_of_chain {span : Span} {spans : List Span} {depth : Nat} {u : List Char}
    {m : Mask} (hs : span.isQuoted)
    (hc : Alternating (span :: spans)) (hu : Follows depth u m) :
    (spans.flatMap Span.written ++ u).head? ≠ some '"' := by
  cases spans with
  | nil => exact hu.not_quote
  | cons next spans =>
    have hn : next.isQuoted = false := by
      rw [isQuoted_next hc, hs]
      rfl
    obtain ⟨c, hfree, hhead⟩ := Span.head_written_free hn (spans.flatMap Span.written ++ u)
    rw [List.flatMap_cons, List.append_assoc, hhead]
    rintro ⟨rfl⟩
    exact absurd hfree (by decide)

/-- Only the letters at the very start can be mistaken for a join: a span that follows another one
follows a word or a quote. -/
theorem scan_spans {depth : Nat} {u : List Char} {m : Mask} (hu : Follows depth u m)
    (spans : List Span) (hc : Alternating spans) {prev : Role}
    (hp : prev.admitsLiteral)
    (hj : ∀ c cs, spans.flatMap Span.written ++ u = c :: cs → isFree c →
      joinAt prev c cs = none) :
    scan prev depth [] (spans.flatMap Span.written ++ u) =
      (spans.flatMap Span.marked).map Prod.snd ++ m := by
  induction spans generalizing prev with
  | nil => exact hu.reads prev
  | cons span spans ih =>
    have htail := hc.of_cons
    cases span with
    | free chars hne hfree =>
      cases chars with
      | nil => exact absurd rfl hne
      | cons c cs =>
        have hword : Role.word.admitsLiteral := rfl
        have hrest := ih htail hword fun c cs _ _ => joinAt_of_not_admitsJoin rfl c cs
        have hfirst : joinAt prev c (cs ++ (spans.flatMap Span.written ++ u)) = none :=
          hj c _ (by simp [Span.written]) (hfree c (by simp))
        have hcs : ∀ x ∈ cs, isFree x := by
          intro x hx
          exact hfree x (by simp [hx])
        rw [List.flatMap_cons, List.append_assoc, Span.written, List.cons_append,
          scan_word depth hp (hfree c (by simp)) hfirst, scan_words depth cs _ hcs, hrest]
        simp [Span.marked, Function.comp_def]
    | quoted body =>
      have hquote : Role.quote.admitsLiteral := rfl
      have hrest := ih htail hquote fun c cs _ _ => joinAt_of_not_admitsJoin rfl c cs
      have hscan := scan_quoted depth body (spans.flatMap Span.written ++ u) hp
        (not_quote_of_chain rfl hc hu)
      simp only [List.flatMap_cons, Span.written, List.cons_append, List.append_assoc,
        List.nil_append, hscan, hrest]
      simp [Span.marked, Function.comp_def]

theorem Role.admitsLiteral_of_admitsOperand {prev : Role} (h : prev.admitsOperand) :
    prev.admitsLiteral := by
  revert h
  cases prev <;> decide

theorem scan_literal {depth : Nat} {u : List Char} {m : Mask} (hu : Follows depth u m)
    (literal : Literal) {prev : Role} (hp : prev.admitsOperand) :
    scan prev depth [] (literal.written ++ u) = literal.marked.map Prod.snd ++ m := by
  apply scan_spans hu literal.spans literal.alternate (Role.admitsLiteral_of_admitsOperand hp)
  intro c cs hcs hfree
  obtain ⟨spans, hne, hchain, hor⟩ := literal
  match spans with
  | [] => exact absurd rfl hne
  | .quoted body :: spans =>
    obtain rfl : '"' = c := by
      simp only [List.flatMap_cons, Span.written, List.cons_append] at hcs
      exact (List.cons.inj hcs).1
    exact absurd hfree (by decide)
  | .free [] hnil _ :: spans => exact absurd rfl hnil
  | .free (x :: xs) _ hxs :: spans =>
    simp only [List.flatMap_cons, Span.written, List.cons_append, List.append_assoc] at hcs
    obtain ⟨rfl, rfl⟩ := List.cons.inj hcs
    have hrest : ∀ y ∈ xs, isFree y := by
      intro y hy
      exact hxs y (by simp [hy])
    apply joinAt_free hrest (not_free_of_chain rfl hchain hu)
    rintro d rfl hs
    cases spans with
    | nil => exact absurd hs (hor x d rfl)
    | cons next spans =>
      have hn : next.isQuoted := by
        rw [isQuoted_next hchain]
        rfl
      rw [List.flatMap_cons, List.append_assoc, Span.head_written_quoted hn]

theorem scan_negations (depth : Nat) (marks : Negations) {prev : Role} (hp : prev.admitsOperand) :
    ∃ next : Role, next.admitsOperand ∧ ∀ u, scan prev depth [] (marks.written ++ u) =
      marks.marked.map Prod.snd ++ scan next depth [] u := by
  induction marks generalizing prev with
  | nil => exact ⟨prev, hp, fun u => rfl⟩
  | cons blanks marks ih =>
    have hstart : Role.not.admitsOperand := rfl
    obtain ⟨next, hnext, hblanks⟩ := scan_blanks depth hstart blanks
    obtain ⟨last, hlast, hmarks⟩ := ih hnext
    refine ⟨last, hlast, fun u => ?_⟩
    have hnot (v : List Char) : scan prev depth [] ('!' :: v) = .not :: scan .not depth [] v := by
      simp [scan, isGap, hp]
    simp only [Negations.written, Negations.marked, List.flatMap_cons, List.cons_append,
      List.append_assoc, hnot, hblanks, List.map_cons, List.map_append] at hmarks ⊢
    rw [hmarks]

theorem Separator.follows {depth : Nat} {v : List Char} {m : Mask} (separator : Separator)
    (hv : scan .gap depth [] v = m) :
    Follows depth (separator.written ++ v) (separator.marked.map Prod.snd ++ m) := by
  have head_gap (gap : Gap) (u : List Char) : ∀ c ∈ (gap.val ++ u).head?, isGap c ∨ c = ')' := by
    obtain ⟨cs, hne, hcs⟩ := gap
    cases cs with
    | nil => exact absurd rfl hne
    | cons c cs =>
      rintro x ⟨rfl⟩
      exact Or.inl (hcs c (by simp))
  cases separator with
  | gap blanks =>
    constructor
    · exact head_gap blanks v
    · intro prev
      rw [written, scan_gap_run, hv]
      rfl
  | or before c d hs after =>
    constructor
    · rw [written, List.append_assoc]
      exact head_gap before _
    · intro prev
      obtain ⟨cs, hne, hcs⟩ := after
      cases cs with
      | nil => exact absurd rfl hne
      | cons e cs =>
        have hafter := scan_gap_run .gap depth ⟨e :: cs, hne, hcs⟩ v
        simp only [List.cons_append] at hafter
        simp only [written, marked, List.append_assoc, List.cons_append, scan_gap_run,
          scan_or depth hs (hcs e (by simp)), hafter, hv, List.map_append, List.map_cons]

mutual

theorem Term.scan_written {depth : Nat} {u : List Char} {m : Mask} (hu : Follows depth u m) :
    ∀ (term : Term) {prev : Role}, prev.admitsOperand →
      scan prev depth [] (term.written ++ u) = term.marked.map Prod.snd ++ m
  | .literal marks literal, prev, hp => by
    obtain ⟨next, hnext, hmarks⟩ := scan_negations depth marks hp
    rw [Term.written, Term.marked, List.append_assoc, hmarks, scan_literal hu literal hnext,
      List.map_append, List.append_assoc]
  | .group marks inner, prev, hp => by
    obtain ⟨next, hnext, hmarks⟩ := scan_negations depth marks hp
    have hclose : Follows (depth + 1) (')' :: u) (.closing :: m) := by
      constructor
      · simp
      · intro prev
        simp [scan, isGap, hu.reads]
    have hstart : Role.opening.admitsOperand := rfl
    have hinner := Expr.scan_written hclose inner hstart
    have hopen : scan next depth [] ('(' :: (inner.written ++ ')' :: u)) =
        .opening :: (inner.marked.map Prod.snd ++ .closing :: m) := by
      simp [scan, isGap, hnext, hinner]
    simp [Term.written, Term.marked, hmarks, hopen]

theorem Expr.scan_written {depth : Nat} {u : List Char} {m : Mask} (hu : Follows depth u m) :
    ∀ (expr : Expr) {prev : Role}, prev.admitsOperand →
      scan prev depth [] (expr.written ++ u) = expr.marked.map Prod.snd ++ m
  | .blank blanks, prev, hp => by
    obtain ⟨next, -, hblanks⟩ := scan_blanks depth hp blanks
    rw [Expr.written, Expr.marked, hblanks, hu.reads]
  | .terms before first rest, prev, hp => by
    obtain ⟨next, hnext, hblanks⟩ := scan_blanks depth hp before
    have hfirst := Term.scan_written (Terms.follows hu rest) first hnext
    simp only [Expr.written, Expr.marked, List.append_assoc, hblanks, hfirst, List.map_append]

theorem Terms.follows {depth : Nat} {u : List Char} {m : Mask} (hu : Follows depth u m) :
    ∀ terms : Terms, Follows depth (terms.written ++ u) (terms.marked.map Prod.snd ++ m)
  | .done ⟨[], _⟩ => hu
  | .done ⟨c :: cs, hcs⟩ => by
    constructor
    · simpa [Terms.written] using Or.inl (hcs c (by simp))
    · intro prev
      rw [Terms.written, scan_gap_run prev depth ⟨c :: cs, by simp, hcs⟩, hu.reads]
      rfl
  | .next separator term rest => by
    have hstart : Role.gap.admitsOperand := rfl
    have hterm := Term.scan_written (Terms.follows hu rest) term hstart
    simpa [Terms.written, Terms.marked] using separator.follows hterm

end

end SocketWatch.Grammar
