import SocketWatch.Proofs.Filter.Passes
import SocketWatch.Proofs.Filter.Scans

/-!
The mask of a text as a judgment, in the form that the two later passes leave it in: every group is
closed and every character has the role it is read by. It forgets what a role depended on while the
text was scanned, and keeps what the roles say about the characters under them.
-/

namespace SocketWatch.Mask

open Grammar (isFree isFree_iff Balanced)

theorem bodyLength_eq_some_iff {text : List Char} {n : Nat} :
    bodyLength text = some n ↔ ∃ literal later : List Char,
      text = literal.flatMap doubled ++ '"' :: later ∧ later.head? ≠ some '"' ∧
        n = (literal.flatMap doubled).length := by
  constructor
  · intro h
    fun_induction bodyLength text generalizing n with
    | case1 => cases h
    | case2 rest ih =>
      obtain ⟨m, hm, rfl⟩ := Option.map_eq_some_iff.mp h
      obtain ⟨literal, later, rfl, hlater, rfl⟩ := ih hm
      exact ⟨'"' :: literal, later, by simp [doubled], hlater, by simp [doubled]⟩
    | case3 rest hrest =>
      obtain rfl := Option.some.inj h
      refine ⟨[], rest, rfl, ?_, rfl⟩
      intro hhead
      obtain ⟨more, rfl⟩ := List.head?_eq_some_iff.mp hhead
      exact hrest more rfl
    | case4 c rest _ hc ih =>
      obtain ⟨m, hm, rfl⟩ := Option.map_eq_some_iff.mp h
      obtain ⟨literal, later, rfl, hlater, rfl⟩ := ih hm
      have hcons : (c :: literal).flatMap doubled = c :: literal.flatMap doubled := by
        rw [List.flatMap_cons, doubled, if_neg hc, List.singleton_append]
      exact ⟨c :: literal, later, by rw [hcons, List.cons_append], hlater, by rw [hcons]; rfl⟩
  · rintro ⟨literal, later, rfl, hlater, rfl⟩
    exact Grammar.bodyLength_doubled literal later hlater

theorem head_isGap_of_joinAt {prev next : Role} {c d : Char} {text : List Char}
    (h : joinAt prev c (d :: text) = some (.or, next)) : ∀ e ∈ text.head?, isGap e := by
  intro e he
  obtain ⟨rest, rfl⟩ := List.head?_eq_some_iff.mp he
  by_cases hgap : isGap e
  · exact hgap
  · simp only [joinAt, hgap] at h
    split at h
    · split at h <;> simp_all
    · cases h

inductive Placed : Nat → List (Char × Role) → Prop where
  | done : Placed 0 []
  | gap {depth : Nat} {c : Char} {w : List (Char × Role)} (h : isGap c) (rest : Placed depth w) :
    Placed depth ((c, .gap) :: w)
  | opening {depth : Nat} {w : List (Char × Role)} (rest : Placed (depth + 1) w) :
    Placed depth (('(', .opening) :: w)
  | closing {depth : Nat} {w : List (Char × Role)} (rest : Placed depth w) :
    Placed (depth + 1) ((')', .closing) :: w)
  | not {depth : Nat} {w : List (Char × Role)} (rest : Placed depth w) :
    Placed depth (('!', .not) :: w)
  | word {depth : Nat} {c : Char} {w : List (Char × Role)} (hfree : isFree c)
    (rest : Placed depth w) : Placed depth ((c, .word) :: w)
  | quoted {depth : Nat} {w : List (Char × Role)} (body : List Char)
    (hbody : bodyLength (body ++ '"' :: w.map Prod.fst) = some body.length)
    (rest : Placed depth w) :
    Placed depth (('"', .quote) :: (body.map (·, .quoted) ++ ('"', .quote) :: w))
  | strayQuoted {depth : Nat} {w : List (Char × Role)} (body : List Char)
    (hbody : bodyLength (body ++ '"' :: w.map Prod.fst) = some body.length)
    (rest : Placed depth w) :
    Placed depth (('"', .ignored) :: (body.map (·, .ignored) ++ ('"', .ignored) :: w))
  | join {depth : Nat} {c d : Char} {w : List (Char × Role)} (h : spellsOr c d)
    (hends : ∀ e ∈ (w.map Prod.fst).head?, isGap e) (rest : Placed depth w) :
    Placed depth ((c, .or) :: (d, .or) :: w)
  | stray {depth : Nat} {c : Char} {w : List (Char × Role)} (hgap : isGap c = false)
    (hquote : c = '"' → bodyLength (w.map Prod.fst) = none) (rest : Placed depth w) :
    Placed depth ((c, .ignored) :: w)

theorem letters_of_spellsOr {c d : Char} (h : spellsOr c d) :
    (isGap c = false ∧ c ≠ '"') ∧ isGap d = false ∧ d ≠ '"' := by
  simp only [spellsOr, Bool.and_eq_true, Bool.or_eq_true, beq_iff_eq] at h
  obtain ⟨rfl | rfl, rfl | rfl⟩ := h <;> decide

theorem Placed.strayJoin {depth : Nat} {c d : Char} {w : List (Char × Role)} (h : spellsOr c d)
    (rest : Placed depth w) : Placed depth ((c, .ignored) :: (d, .ignored) :: w) := by
  obtain ⟨⟨hc, hc'⟩, hd, hd'⟩ := letters_of_spellsOr h
  exact .stray hc (fun h => absurd h hc') (.stray hd (fun h => absurd h hd') rest)

theorem Stray.isGap_eq {prev : Role} {depth : Nat} {rest : List Char} {c : Char}
    (h : Stray prev depth rest c) : isGap c = false := by
  cases h with
  | letter hfree => exact (isFree_iff.mp hfree).1
  | _ => rfl

theorem Stray.bodyLength_eq {prev : Role} {depth : Nat} {rest : List Char} {c : Char}
    (h : Stray prev depth rest c) (hc : c = '"') : bodyLength rest = none := by
  subst hc
  cases h with
  | quote h => exact h
  | letter hfree => exact absurd hfree (by decide)

def span (outer inner : Role) (body : List Char) : List (Char × Role) :=
  ('"', outer) :: (body.map (·, inner) ++ [('"', outer)])

@[simp] theorem span_append (outer inner : Role) (body : List Char) (w : List (Char × Role)) :
    span outer inner body ++ w =
      ('"', outer) :: (body.map (·, inner) ++ ('"', outer) :: w) := by
  simp [span]

theorem role_of_mem_span {outer inner : Role} {body : List Char} {p : Char × Role}
    (hp : p ∈ span outer inner body) : p.2 = outer ∨ p.2 = inner := by
  simp only [span, List.mem_cons, List.mem_append, List.mem_map, List.not_mem_nil, or_false] at hp
  rcases hp with rfl | ⟨c, -, rfl⟩ | rfl <;> simp

/-- What the second pass makes of `w` is placed, and at most `depth` closings still wait for an
opening in front. -/
def Answers (depth : Nat) (w : List (Char × Role)) : Prop :=
  ∃ v waiting, waiting ≤ depth ∧ v.map Prod.fst = w.map Prod.fst ∧
    answerOpenings (w.map Prod.snd) = (v.map Prod.snd, waiting) ∧ Placed waiting v

theorem Answers.run {depth : Nat} {w : List (Char × Role)} (h : Answers depth w)
    (run : List (Char × Role)) (hrun : ∀ p ∈ run, p.2 ≠ .opening ∧ p.2 ≠ .closing)
    (hplaced : ∀ waiting v, v.map Prod.fst = w.map Prod.fst → Placed waiting v →
      Placed waiting (run ++ v)) : Answers depth (run ++ w) := by
  obtain ⟨v, waiting, hle, hfst, hanswer, hv⟩ := h
  have hbalanced : Balanced (run.map Prod.snd) := by
    apply Balanced.of_plain
    intro role hrole
    obtain ⟨p, hp, rfl⟩ := List.mem_map.mp hrole
    exact hrun p hp
  refine ⟨run ++ v, waiting, hle, by simp [hfst], ?_, hplaced waiting v hfst hv⟩
  rw [List.map_append, hbalanced, hanswer, List.map_append]

theorem Answers.opening {depth : Nat} {w : List (Char × Role)} (h : Answers (depth + 1) w) :
    Answers depth (('(', .opening) :: w) := by
  obtain ⟨v, waiting, hle, hfst, hanswer, hv⟩ := h
  cases waiting with
  | zero =>
    exact ⟨('(', .ignored) :: v, 0, Nat.zero_le _, by simp [hfst],
      by simp [answerOpenings, hanswer], .stray rfl (by simp) hv⟩
  | succ waiting =>
    exact ⟨('(', .opening) :: v, waiting, by omega, by simp [hfst],
      by simp [answerOpenings, hanswer], .opening hv⟩

theorem Answers.closing {depth : Nat} {w : List (Char × Role)} (h : Answers depth w) :
    Answers (depth + 1) ((')', .closing) :: w) := by
  obtain ⟨v, waiting, hle, hfst, hanswer, hv⟩ := h
  exact ⟨(')', .closing) :: v, waiting + 1, by omega, by simp [hfst],
    by simp [answerOpenings, hanswer], .closing hv⟩

theorem Scans.answers {prev : Role} {depth : Nat} {w : List (Char × Role)}
    (h : Scans prev depth w) : Answers depth w := by
  induction h with
  | done => exact ⟨[], 0, Nat.zero_le _, rfl, rfl, .done⟩
  | gap h _ ih => exact ih.run [(_, .gap)] (by simp) fun _ _ _ hv => .gap h hv
  | opening _ _ ih => exact ih.opening
  | closing _ ih => exact ih.closing
  | not _ _ ih => exact ih.run [(_, .not)] (by simp) fun _ _ _ hv => .not hv
  | quoted body _ hbody _ ih =>
    have hplain : ∀ p ∈ span .quote .quoted body, p.2 ≠ .opening ∧ p.2 ≠ .closing := by
      intro p hp
      rcases role_of_mem_span hp with h | h <;> simp [h]
    simpa using ih.run _ hplain fun _ _ hfst hv => by
      simpa using Placed.quoted body (hfst ▸ hbody) hv
  | strayQuoted body _ hbody _ ih =>
    have hplain : ∀ p ∈ span .ignored .ignored body, p.2 ≠ .opening ∧ p.2 ≠ .closing := by
      intro p hp
      rcases role_of_mem_span hp with h | h <;> simp [h]
    simpa using ih.run _ hplain fun _ _ hfst hv => by
      simpa using Placed.strayQuoted body (hfst ▸ hbody) hv
  | @join prev role next depth c d w _ h _ ih =>
    obtain ⟨x, rest, htext, hspells, hrole⟩ := joinAt_eq_some h
    obtain ⟨rfl, -⟩ := List.cons.inj htext
    rcases hrole with rfl | rfl
    · apply ih.run [(c, .or), (d, .or)] (by simp)
      intro waiting v hfst hv
      exact .join hspells (hfst ▸ head_isGap_of_joinAt h) hv
    · exact ih.run [(c, .ignored), (d, .ignored)] (by simp) fun _ _ _ hv => .strayJoin hspells hv
  | word hfree _ _ _ ih => exact ih.run [(_, .word)] (by simp) fun _ _ _ hv => .word hfree hv
  | stray h _ ih =>
    apply ih.run [(_, .ignored)] (by simp)
    intro waiting v hfst hv
    exact .stray h.isGap_eq (hfst ▸ h.bodyLength_eq) hv

end SocketWatch.Mask
