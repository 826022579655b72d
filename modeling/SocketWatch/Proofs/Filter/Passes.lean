import SocketWatch.Proofs.Filter.Scanning

namespace SocketWatch.Grammar

open Mask

def Balanced (w : Mask) : Prop :=
  ∀ m, answerOpenings (w ++ m) = (w ++ (answerOpenings m).1, (answerOpenings m).2)

theorem Balanced.append {v w : Mask} (hv : Balanced v) (hw : Balanced w) : Balanced (v ++ w) := by
  intro m
  rw [List.append_assoc, hv, hw, List.append_assoc]

theorem Balanced.of_plain {w : Mask} (h : ∀ role ∈ w, role ≠ .opening ∧ role ≠ .closing) :
    Balanced w := by
  intro m
  induction w with
  | nil => rfl
  | cons role w ih =>
    obtain ⟨hopen, hclose⟩ := h role (by simp)
    simp [answerOpenings, ih fun r hr => h r (by simp [hr])]

theorem Balanced.group {w : Mask} (h : Balanced w) : Balanced (.opening :: (w ++ [.closing])) := by
  intro m
  have hclose := h (.closing :: m)
  simp only [answerOpenings] at hclose
  simp [answerOpenings, hclose]

theorem Balanced.flatMap {α : Type} {f : α → List (Char × Role)}
    (h : ∀ a, Balanced ((f a).map Prod.snd)) (l : List α) :
    Balanced ((l.flatMap f).map Prod.snd) := by
  induction l with
  | nil =>
    intro m
    rfl
  | cons a l ih =>
    rw [List.flatMap_cons, List.map_append]
    exact (h a).append ih

theorem balanced_blanks (cs : List Char) : Balanced ((markBlanks cs).map Prod.snd) :=
  .of_plain (by simp [markBlanks])

theorem balanced_span (span : Span) : Balanced (span.marked.map Prod.snd) := by
  cases span with
  | free => exact .of_plain (by simp [Span.marked])
  | quoted body =>
    apply Balanced.of_plain
    intro role hrole
    simp only [Span.marked, List.map_cons, List.map_append, List.map_map, Function.comp_def,
      List.map_nil, List.map_const', List.mem_cons, List.mem_append, List.mem_replicate,
      List.not_mem_nil, or_false] at hrole
    rcases hrole with rfl | ⟨-, rfl⟩ | rfl <;> decide

theorem balanced_literal (literal : Literal) : Balanced (literal.marked.map Prod.snd) :=
  .flatMap balanced_span literal.spans

theorem balanced_negations (marks : Negations) : Balanced (marks.marked.map Prod.snd) := by
  apply Balanced.flatMap
  intro blanks
  have hnot : Balanced [.not] := .of_plain (by simp)
  exact hnot.append (balanced_blanks blanks)

theorem balanced_separator (separator : Separator) :
    Balanced (separator.marked.map Prod.snd) := by
  cases separator with
  | gap blanks => exact balanced_blanks blanks
  | or before c d hs after =>
    have hor : Balanced [.or, .or] := .of_plain (by simp)
    simpa [Separator.marked] using
      (balanced_blanks before).append (hor.append (balanced_blanks after))

mutual

theorem Term.balanced : ∀ term : Term, Balanced (term.marked.map Prod.snd)
  | .literal marks literal => by
    rw [Term.marked, List.map_append]
    exact (balanced_negations marks).append (balanced_literal literal)
  | .group marks inner => by
    have hgroup := (Expr.balanced inner).group
    simpa [Term.marked] using (balanced_negations marks).append hgroup

theorem Expr.balanced : ∀ expr : Expr, Balanced (expr.marked.map Prod.snd)
  | .blank blanks => balanced_blanks blanks
  | .terms before first rest => by
    rw [Expr.marked, List.map_append, List.map_append]
    exact (balanced_blanks before).append ((Term.balanced first).append (Terms.balanced rest))

theorem Terms.balanced : ∀ terms : Terms, Balanced (terms.marked.map Prod.snd)
  | .done after => balanced_blanks after
  | .next separator term rest => by
    rw [Terms.marked, List.map_append, List.map_append]
    exact (balanced_separator separator).append ((Term.balanced term).append (Terms.balanced rest))

end

/-- Behind a role that `last` stands for, no join of `w` dangles, and `next` stands for the roles
behind it. -/
def Keeps (last : Role) (w : Mask) (next : Role) : Prop :=
  ∀ m, dropDangling last (w ++ m) = w ++ dropDangling next m

theorem Keeps.append {last next final : Role} {v w : Mask} (hv : Keeps last v next)
    (hw : Keeps next w final) : Keeps last (v ++ w) final := by
  intro m
  rw [List.append_assoc, hv, hw, List.append_assoc]

theorem keeps_blanks (last : Role) (cs : List Char) :
    Keeps last ((markBlanks cs).map Prod.snd) last := by
  intro m
  induction cs with
  | nil => rfl
  | cons c cs ih => simpa [markBlanks, dropDangling] using ih

theorem keeps_replicate (last role : Role) (hor : role ≠ .or) (hign : role ≠ .ignored)
    (hgap : role ≠ .gap) (n : Nat) : Keeps last (List.replicate (n + 1) role) role := by
  intro m
  induction n generalizing last with
  | zero => simp [dropDangling, hor]
  | succ n ih =>
    rw [List.replicate_succ, List.cons_append]
    simpa [dropDangling, hor, hign, hgap] using ih role

theorem keeps_span (last : Role) (span : Span) :
    ∃ next : Role, next.endsOperand ∧ Keeps last (span.marked.map Prod.snd) next := by
  cases span with
  | free chars hne _ =>
    obtain ⟨n, hn⟩ : ∃ n, chars.length = n + 1 :=
      Nat.exists_eq_succ_of_ne_zero (by simpa using hne)
    refine ⟨.word, rfl, ?_⟩
    simpa [Span.marked, Function.comp_def, List.map_const', hn] using
      keeps_replicate last .word (by decide) (by decide) (by decide) n
  | quoted body =>
    have hbody : ∀ (cs : List Char) (last : Role) (m : Mask),
        dropDangling last (cs.map (fun _ => .quoted) ++ .quote :: m) =
          cs.map (fun _ => .quoted) ++ .quote :: dropDangling .quote m := by
      intro cs last m
      induction cs generalizing last with
      | nil => simp [dropDangling]
      | cons c cs ih => simpa [dropDangling] using ih .quoted
    refine ⟨.quote, rfl, ?_⟩
    intro m
    simpa [Span.marked, Function.comp_def, dropDangling, List.map_const'] using
      hbody (body.flatMap doubled) .quote m

theorem keeps_literal (last : Role) (literal : Literal) :
    ∃ next : Role, next.endsOperand ∧ Keeps last (literal.marked.map Prod.snd) next := by
  have hne := literal.ne_nil
  rw [Literal.marked]
  generalize literal.spans = spans at hne
  induction spans generalizing last with
  | nil => exact absurd rfl hne
  | cons span spans ih =>
    obtain ⟨next, hnext, hspan⟩ := keeps_span last span
    rw [List.flatMap_cons, List.map_append]
    by_cases hs : spans = []
    · exact ⟨next, hnext, by simpa [hs] using hspan⟩
    · obtain ⟨final, hfinal, hspans⟩ := ih next hs
      exact ⟨final, hfinal, hspan.append hspans⟩

theorem keeps_negations (last : Role) (marks : Negations) :
    ∃ next : Role, Keeps last (marks.marked.map Prod.snd) next := by
  rw [Negations.marked]
  induction marks generalizing last with
  | nil => exact ⟨last, fun m => rfl⟩
  | cons blanks marks ih =>
    obtain ⟨next, hmarks⟩ := ih .not
    have hnot : Keeps last [.not] .not := by
      intro m
      simp [dropDangling]
    refine ⟨next, ?_⟩
    rw [List.flatMap_cons, List.map_append, List.map_cons]
    exact (hnot.append (keeps_blanks .not blanks)).append hmarks

theorem keeps_separator {last : Role} (h : last.endsOperand) (separator : Separator) :
    ∃ next : Role, Keeps last (separator.marked.map Prod.snd) next := by
  cases separator with
  | gap blanks => exact ⟨last, keeps_blanks last blanks⟩
  | or before c d hs after =>
    have hor : Keeps last [.or, .or] .or := by
      intro m
      simp [dropDangling, h]
    refine ⟨.or, ?_⟩
    simpa [Separator.marked] using
      (keeps_blanks last before).append (hor.append (keeps_blanks .or after))

mutual

theorem Term.keeps (last : Role) :
    ∀ term : Term, ∃ next : Role, next.endsOperand ∧ Keeps last (term.marked.map Prod.snd) next
  | .literal marks literal => by
    obtain ⟨middle, hmarks⟩ := keeps_negations last marks
    obtain ⟨next, hnext, hliteral⟩ := keeps_literal middle literal
    refine ⟨next, hnext, ?_⟩
    rw [Term.marked, List.map_append]
    exact hmarks.append hliteral
  | .group marks inner => by
    obtain ⟨middle, hmarks⟩ := keeps_negations last marks
    obtain ⟨final, hinner⟩ := Expr.keeps .opening inner
    have hopen : Keeps middle [.opening] .opening := by
      intro m
      simp [dropDangling]
    have hclose : Keeps final [.closing] .closing := by
      intro m
      simp [dropDangling]
    refine ⟨.closing, rfl, ?_⟩
    simpa [Term.marked] using hmarks.append (hopen.append (hinner.append hclose))

theorem Expr.keeps (last : Role) :
    ∀ expr : Expr, ∃ next : Role, Keeps last (expr.marked.map Prod.snd) next
  | .blank blanks => ⟨last, keeps_blanks last blanks⟩
  | .terms before first rest => by
    obtain ⟨middle, hmiddle, hfirst⟩ := Term.keeps last first
    obtain ⟨next, hrest⟩ := Terms.keeps hmiddle rest
    refine ⟨next, ?_⟩
    rw [Expr.marked, List.map_append, List.map_append]
    exact (keeps_blanks last before).append (hfirst.append hrest)

theorem Terms.keeps {last : Role} (h : last.endsOperand) :
    ∀ terms : Terms, ∃ next : Role, Keeps last (terms.marked.map Prod.snd) next
  | .done after => ⟨last, keeps_blanks last after⟩
  | .next separator term rest => by
    obtain ⟨left, hseparator⟩ := keeps_separator h separator
    obtain ⟨middle, hmiddle, hterm⟩ := Term.keeps left term
    obtain ⟨next, hrest⟩ := Terms.keeps hmiddle rest
    refine ⟨next, ?_⟩
    rw [Terms.marked, List.map_append, List.map_append]
    exact hseparator.append (hterm.append hrest)

end

theorem ofChars_written (expr : Expr) :
    Mask.ofChars expr.written = expr.marked.map Prod.snd := by
  have hend : Follows 0 [] [] := ⟨by simp, fun _ => rfl⟩
  have hscan : scan .gap 0 [] expr.written = expr.marked.map Prod.snd := by
    have hstart : Role.gap.admitsOperand := rfl
    simpa using expr.scan_written hend hstart
  have hanswer := expr.balanced []
  obtain ⟨next, hkeeps⟩ := expr.keeps .opening
  have hdrop := hkeeps []
  simp only [List.append_nil] at hanswer hdrop
  rw [Mask.ofChars, hscan, hanswer]
  simpa [answerOpenings, dropDangling] using hdrop

end SocketWatch.Grammar
