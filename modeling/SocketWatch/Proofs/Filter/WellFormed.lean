import SocketWatch.Proofs.Filter.Placed

namespace SocketWatch.Mask

open Grammar (isFree isFree_iff Keeps keeps_blanks keeps_replicate keeps_span)

inductive Formed : List (Char × Role) → Prop where
  | nil : Formed []
  | apart {c : Char} {role : Role} {w : List (Char × Role)}
    (h : role = .gap ∨ role = .ignored ∨ role = .or) (rest : Formed w) : Formed ((c, role) :: w)
  | not {w : List (Char × Role)} (rest : Formed w) : Formed (('!', .not) :: w)
  | word {c : Char} {w : List (Char × Role)} (h : isFree c) (rest : Formed w) :
    Formed ((c, .word) :: w)
  | quoted {w : List (Char × Role)} (literal : List Char) (rest : Formed w) :
    Formed (('"', .quote) ::
      ((literal.flatMap doubled).map (·, .quoted) ++ ('"', .quote) :: w))
  | group {inner w : List (Char × Role)} (hinner : Formed inner) (rest : Formed w) :
    Formed (('(', .opening) :: (inner ++ (')', .closing) :: w))

/-- For each character of a text, whether it stands in quotes or is one of them. A quote opens a
span where a later one closes it. `ahead` characters are known to belong to a span. -/
def inQuotes (ahead : Nat) : List Char → List Bool
  | [] => []
  | c :: rest =>
    match ahead with
    | ahead + 1 => true :: inQuotes ahead rest
    | 0 =>
      if c = '"' then
        match bodyLength rest with
        | some n => true :: inQuotes (n + 1) rest
        | none => false :: inQuotes 0 rest
      else false :: inQuotes 0 rest

def nearest (before : List (Char × Role)) : Option Role :=
  ((before.map Prod.snd).filter fun role => role ≠ .gap ∧ role ≠ .ignored).getLast?

def OperandEnds (before : List (Char × Role)) : Prop :=
  nearest before = some .word ∨ nearest before = some .quote ∨ nearest before = some .closing

structure JoinAt (before : List (Char × Role)) (c d : Char) (after : List (Char × Role)) :
    Prop where
  spells : spellsOr c d
  ends : ∀ p ∈ after.head?, p.2 = .gap
  operand : OperandEnds before

def JoinsPlaced (before w : List (Char × Role)) : Prop :=
  ∀ earlier c after, w = earlier ++ (c, .or) :: after →
    (∃ d later, after = (d, .or) :: later ∧ JoinAt (before ++ earlier) c d later) ∨
      ∃ first b, before ++ earlier = first ++ [(b, .or)] ∧ JoinAt first b c after

structure WellFormed (text : List Char) (mask : Mask) : Prop where
  length_eq : mask.length = text.length
  formed : Formed (text.zip mask)
  joins : JoinsPlaced [] (text.zip mask)
  gap_iff : ∀ (i : Nat) (c : Char), text[i]? = some c →
    (mask[i]? = some Role.gap ↔ isGap c ∧ (inQuotes 0 text)[i]? = some false)

theorem exists_of_run_append {run w before after : List (Char × Role)} {p : Char × Role}
    (hrun : p ∉ run) (h : run ++ w = before ++ p :: after) :
    ∃ later, before = run ++ later ∧ w = later ++ p :: after := by
  rcases List.append_eq_append_iff.mp h with ⟨later, rfl, rfl⟩ | ⟨later, rfl, hlater⟩
  · exact ⟨later, rfl, rfl⟩
  · cases later with
    | nil => exact ⟨[], by simp, by simpa using hlater.symm⟩
    | cons q later =>
      obtain ⟨rfl, -⟩ := List.cons.inj hlater
      exact absurd (by simp) hrun

theorem JoinsPlaced.run {before w : List (Char × Role)} (run : List (Char × Role))
    (h : JoinsPlaced (before ++ run) w) (hrun : ∀ p ∈ run, p.2 ≠ .or) :
    JoinsPlaced before (run ++ w) := by
  intro earlier c after hw
  have hmem : (c, .or) ∉ run := fun hmem => hrun _ hmem rfl
  obtain ⟨later, rfl, hlater⟩ := exists_of_run_append hmem hw
  simpa [List.append_assoc] using h later c after hlater

theorem JoinsPlaced.join {before w : List (Char × Role)} {c d : Char} (hjoin : JoinAt before c d w)
    (h : JoinsPlaced (before ++ [(c, .or), (d, .or)]) w) :
    JoinsPlaced before ((c, .or) :: (d, .or) :: w) := by
  intro earlier x after hw
  match earlier with
  | [] =>
    simp only [List.nil_append, List.cons.injEq, Prod.mk.injEq, and_true] at hw
    obtain ⟨rfl, rfl⟩ := hw
    exact .inl ⟨d, w, rfl, by simpa using hjoin⟩
  | [p] =>
    simp only [List.cons_append, List.nil_append, List.cons.injEq, Prod.mk.injEq, and_true] at hw
    obtain ⟨rfl, rfl, rfl⟩ := hw
    exact .inr ⟨before, c, rfl, hjoin⟩
  | p :: q :: earlier =>
    simp only [List.cons_append, List.cons.injEq] at hw
    obtain ⟨rfl, rfl, hw⟩ := hw
    simpa [List.append_assoc] using h earlier x after hw

theorem operandEnds_passed {before run : List (Char × Role)}
    (hrun : ∀ p ∈ run, p.2 = .gap ∨ p.2 = .ignored) :
    OperandEnds (before ++ run) ↔ OperandEnds before := by
  have hnone : (run.map Prod.snd).filter (fun role => role ≠ .gap ∧ role ≠ .ignored) = [] := by
    rw [List.filter_eq_nil_iff]
    intro role hrole
    obtain ⟨p, hp, rfl⟩ := List.mem_map.mp hrole
    rcases hrun p hp with h | h <;> simp [h]
  have hnearest : nearest (before ++ run) = nearest before := by
    rw [nearest, List.map_append, List.filter_append, hnone, List.append_nil, nearest]
  rw [OperandEnds, hnearest, OperandEnds]

theorem nearest_concat {before : List (Char × Role)} {p : Char × Role}
    (hp : p.2 ≠ .gap ∧ p.2 ≠ .ignored) : nearest (before ++ [p]) = some p.2 := by
  simp [nearest, hp]

theorem keeps_passed {last : Role} {mask : Mask}
    (h : ∀ role ∈ mask, role = .gap ∨ role = .ignored) : Keeps last mask last := by
  intro m
  induction mask with
  | nil => rfl
  | cons role mask ih =>
    have hrest := ih fun other hother => h other (by simp [hother])
    rcases h role (by simp) with rfl | rfl <;> simp [dropDangling, hrest]

theorem Placed.gap_of_isGap {depth : Nat} {p : Char × Role} {w : List (Char × Role)}
    (h : Placed depth (p :: w)) (hp : isGap p.1) : p.2 = .gap := by
  cases h with
  | gap => rfl
  | word hfree => simp [(isFree_iff.mp hfree).1] at hp
  | join hspells => simp [Grammar.isGap_of_spells hspells] at hp
  | stray hgap => simp [hgap] at hp
  | _ => exact absurd hp (by decide)

def Undangles (depth : Nat) (last : Role) (before w : List (Char × Role)) : Prop :=
  ∃ v, v.map Prod.fst = w.map Prod.fst ∧ dropDangling last (w.map Prod.snd) = v.map Prod.snd ∧
    Placed depth v ∧ JoinsPlaced before v

theorem Undangles.run {depth depth' : Nat} {last next : Role} {before w : List (Char × Role)}
    (run : List (Char × Role)) (h : Undangles depth' next (before ++ run) w)
    (hrun : ∀ p ∈ run, p.2 ≠ .or)
    (hkeeps : Keeps last (run.map Prod.snd) next)
    (hplaced : ∀ v, v.map Prod.fst = w.map Prod.fst → Placed depth' v → Placed depth (run ++ v)) :
    Undangles depth last before (run ++ w) := by
  obtain ⟨v, hfst, hdrop, hv, hjoins⟩ := h
  refine ⟨run ++ v, by simp [hfst], ?_, hplaced v hfst hv, hjoins.run run hrun⟩
  rw [List.map_append, hkeeps, hdrop, List.map_append]

theorem Undangles.join {depth : Nat} {last : Role} {before w : List (Char × Role)} {c d : Char}
    (hlast : last.endsOperand → OperandEnds before) (hspells : spellsOr c d)
    (hends : ∀ e ∈ (w.map Prod.fst).head?, isGap e)
    (h : ∀ before, Undangles depth .or before w) :
    Undangles depth last before ((c, .or) :: (d, .or) :: w) := by
  by_cases hoperand : last.endsOperand
  · obtain ⟨v, hfst, hdrop, hv, hjoins⟩ := h (before ++ [(c, .or), (d, .or)])
    have hjoin : JoinAt before c d v := by
      refine ⟨hspells, ?_, hlast hoperand⟩
      intro p hp
      obtain ⟨rest, rfl⟩ := List.head?_eq_some_iff.mp hp
      apply hv.gap_of_isGap
      apply hends
      simp [← hfst]
    refine ⟨(c, .or) :: (d, .or) :: v, by simp [hfst], ?_, ?_, hjoins.join hjoin⟩
    · simp [dropDangling, hoperand, hdrop]
    · exact .join hspells (hfst ▸ hends) hv
  · obtain ⟨v, hfst, hdrop, hv, hjoins⟩ := h (before ++ [(c, .ignored), (d, .ignored)])
    refine ⟨(c, .ignored) :: (d, .ignored) :: v, by simp [hfst], ?_, .strayJoin hspells hv,
      hjoins.run [(c, .ignored), (d, .ignored)] (by simp)⟩
    simp [dropDangling, hoperand, hdrop]

theorem Undangles.passed {depth depth' : Nat} {last : Role} {before run w : List (Char × Role)}
    (h : Undangles depth' last (before ++ run) w)
    (hrun : ∀ p ∈ run, p.2 = .gap ∨ p.2 = .ignored)
    (hplaced : ∀ v, v.map Prod.fst = w.map Prod.fst → Placed depth' v → Placed depth (run ++ v)) :
    Undangles depth last before (run ++ w) := by
  refine h.run run ?_ (keeps_passed ?_) hplaced
  · intro p hp hor
    rcases hrun p hp with h | h <;> simp [h] at hor
  · intro role hrole
    obtain ⟨p, hp, rfl⟩ := List.mem_map.mp hrole
    exact hrun p hp

theorem Undangles.cons {depth depth' : Nat} {last : Role} {before w : List (Char × Role)}
    {p : Char × Role} (h : Undangles depth' p.2 (before ++ [p]) w)
    (hp : p.2 ≠ .or ∧ p.2 ≠ .ignored ∧ p.2 ≠ .gap)
    (hplaced : ∀ v, v.map Prod.fst = w.map Prod.fst → Placed depth' v → Placed depth (p :: v)) :
    Undangles depth last before (p :: w) := by
  obtain ⟨hor, hignored, hgap⟩ := hp
  exact h.run [p] (by simpa using hor)
    (keeps_replicate last p.2 hor hignored hgap 0) hplaced

theorem Undangles.quoted {depth : Nat} {last : Role} {before w : List (Char × Role)}
    (literal : List Char) (hw : (w.map Prod.fst).head? ≠ some '"')
    (h : ∀ {next : Role} {before : List (Char × Role)}, OperandEnds before →
      Undangles depth next before w) :
    Undangles depth last before (('"', .quote) ::
      ((literal.flatMap doubled).map (·, .quoted) ++ ('"', .quote) :: w)) := by
  obtain ⟨next, -, hkeeps⟩ := keeps_span last (.quoted literal)
  have hends : OperandEnds (before ++ span .quote .quoted (literal.flatMap doubled)) := by
    rw [span, ← List.cons_append, ← List.append_assoc]
    exact .inr (.inl (nearest_concat (by simp)))
  have hor : ∀ p ∈ span .quote .quoted (literal.flatMap doubled), p.2 ≠ .or := by
    intro p hp
    rcases role_of_mem_span hp with h | h <;> simp [h]
  have hrun := (h hends).run _ hor hkeeps fun v hfst hv => by
    have hbody := Grammar.bodyLength_doubled literal (w.map Prod.fst) hw
    simpa using Placed.quoted (literal.flatMap doubled) (hfst ▸ hbody) hv
  simpa using hrun

theorem Placed.undangles {depth : Nat} {w : List (Char × Role)} (h : Placed depth w) :
    ∀ {last : Role} {before : List (Char × Role)}, (last.endsOperand → OperandEnds before) →
      Undangles depth last before w := by
  induction h with
  | done => exact fun _ => ⟨[], rfl, rfl, .done, by intro earlier c after hw; simp at hw⟩
  | @gap depth c w hc _ ih =>
    intro last before hlast
    have hrun : ∀ p ∈ [(c, Role.gap)], p.2 = .gap ∨ p.2 = .ignored := by simp
    exact (ih fun hends => (operandEnds_passed hrun).mpr (hlast hends)).passed hrun
      fun _ _ hv => .gap hc hv
  | opening _ ih =>
    intro last before _
    exact (ih (by simp [Role.endsOperand])).cons (by simp) fun _ _ hv => .opening hv
  | closing _ ih =>
    intro last before _
    exact (ih fun _ => .inr (.inr (nearest_concat (by simp)))).cons (by simp)
      fun _ _ hv => .closing hv
  | not _ ih =>
    intro last before _
    exact (ih (by simp [Role.endsOperand])).cons (by simp) fun _ _ hv => .not hv
  | word hfree _ ih =>
    intro last before _
    exact (ih fun _ => .inl (nearest_concat (by simp))).cons (by simp)
      fun _ _ hv => .word hfree hv
  | quoted body hbody _ ih =>
    intro last before _
    obtain ⟨literal, later, heq, hlater, hlength⟩ := bodyLength_eq_some_iff.mp hbody
    obtain ⟨rfl, hcons⟩ := List.append_inj heq hlength
    obtain ⟨-, rfl⟩ := List.cons.inj hcons
    exact .quoted literal hlater fun hends => ih fun _ => hends
  | strayQuoted body hbody _ ih =>
    intro last before hlast
    have hrun : ∀ p ∈ span .ignored .ignored body, p.2 = .gap ∨ p.2 = .ignored := by
      intro p hp
      rcases role_of_mem_span hp with h | h <;> simp [h]
    have hpassed := (ih fun hends => (operandEnds_passed hrun).mpr (hlast hends)).passed hrun
      fun _ hfst hv => by simpa using Placed.strayQuoted body (hfst ▸ hbody) hv
    simpa using hpassed
  | join hspells hends _ ih =>
    intro last before hlast
    exact .join hlast hspells hends fun before => ih (by simp [Role.endsOperand])
  | @stray depth c w hc hquote _ ih =>
    intro last before hlast
    have hrun : ∀ p ∈ [(c, Role.ignored)], p.2 = .gap ∨ p.2 = .ignored := by simp
    exact (ih fun hends => (operandEnds_passed hrun).mpr (hlast hends)).passed hrun
      fun _ hfst hv => .stray hc (hfst ▸ hquote) hv

inductive Closes : Nat → List (Char × Role) → Prop where
  | last {w : List (Char × Role)} (h : Formed w) : Closes 0 w
  | next {depth : Nat} {v w : List (Char × Role)} (h : Formed v) (rest : Closes depth w) :
    Closes (depth + 1) (v ++ (')', .closing) :: w)

theorem Closes.run {depth : Nat} {w : List (Char × Role)} (h : Closes depth w)
    (run : List (Char × Role)) (hrun : ∀ v, Formed v → Formed (run ++ v)) :
    Closes depth (run ++ w) := by
  cases h with
  | last h => exact .last (hrun _ h)
  | next h rest =>
    rw [← List.append_assoc]
    exact .next (hrun _ h) rest

theorem Closes.opening {depth : Nat} {w : List (Char × Role)} (h : Closes (depth + 1) w) :
    Closes depth (('(', .opening) :: w) := by
  cases h with
  | next hinner rest =>
    cases rest with
    | last h => exact .last (.group hinner h)
    | next h rest =>
      have hgroup := Closes.next (.group hinner h) rest
      simpa using hgroup

theorem Formed.passed {run v : List (Char × Role)} (hrun : ∀ p ∈ run, p.2 = .ignored)
    (hv : Formed v) : Formed (run ++ v) := by
  induction run with
  | nil => exact hv
  | cons p run ih =>
    have hrest := ih fun q hq => hrun q (by simp [hq])
    exact .apart (.inr (.inl (hrun p (by simp)))) hrest

theorem Placed.closes {depth : Nat} {w : List (Char × Role)} (h : Placed depth w) :
    Closes depth w := by
  induction h with
  | done => exact .last .nil
  | gap _ _ ih => exact ih.run [(_, .gap)] fun _ hv => .apart (by simp) hv
  | opening _ ih => exact ih.opening
  | closing _ ih => exact .next .nil ih
  | not _ ih => exact ih.run [('!', .not)] fun _ hv => .not hv
  | word hfree _ ih => exact ih.run [(_, .word)] fun _ hv => .word hfree hv
  | quoted body hbody _ ih =>
    obtain ⟨literal, later, heq, -, hlength⟩ := bodyLength_eq_some_iff.mp hbody
    obtain ⟨rfl, -⟩ := List.append_inj heq hlength
    have hrun := ih.run (span .quote .quoted (literal.flatMap doubled)) fun _ hv => by
      simpa using Formed.quoted literal hv
    simpa using hrun
  | strayQuoted body _ _ ih =>
    have hignored : ∀ p ∈ span .ignored .ignored body, p.2 = .ignored := by
      intro p hp
      rcases role_of_mem_span hp with h | h <;> exact h
    have hrun := ih.run (span .ignored .ignored body) fun _ hv => hv.passed hignored
    simpa using hrun
  | join _ _ _ ih =>
    exact ih.run [(_, .or), (_, .or)] fun _ hv => .apart (by simp) (.apart (by simp) hv)
  | stray _ _ _ ih => exact ih.run [(_, .ignored)] fun _ hv => .apart (by simp) hv

theorem inQuotes_run (body rest : List Char) :
    inQuotes body.length (body ++ rest) = body.map (fun _ => true) ++ inQuotes 0 rest := by
  induction body with
  | nil => rfl
  | cons c body ih => simp [inQuotes, ih]

theorem inQuotes_span {body rest : List Char}
    (h : bodyLength (body ++ '"' :: rest) = some body.length) :
    inQuotes 0 ('"' :: (body ++ '"' :: rest)) =
      true :: (body.map (fun _ => true) ++ true :: inQuotes 0 rest) := by
  have hrun := inQuotes_run (body ++ ['"']) rest
  simp only [List.length_append, List.length_cons, List.length_nil, List.append_assoc,
    List.cons_append, List.nil_append, List.map_append, List.map_cons, List.map_nil] at hrun
  simp [inQuotes, h, hrun]

def GapsOutside (w : List (Char × Role)) : Prop :=
  w.map (fun p => decide (p.2 = .gap)) =
    List.zipWith (fun c inside => isGap c && !inside) (w.map Prod.fst)
      (inQuotes 0 (w.map Prod.fst))

theorem GapsOutside.cons {c : Char} {role : Role} {w : List (Char × Role)} (h : GapsOutside w)
    (hquote : c = '"' → bodyLength (w.map Prod.fst) = none)
    (hrole : decide (role = .gap) = isGap c) : GapsOutside ((c, role) :: w) := by
  rw [GapsOutside] at h
  by_cases hc : c = '"'
  · simp [GapsOutside, inQuotes, hc, hquote hc, h, hrole]
  · simp [GapsOutside, inQuotes, hc, h, hrole]

theorem GapsOutside.span {outer inner : Role} {body : List Char} {w : List (Char × Role)}
    (h : GapsOutside w) (houter : outer ≠ .gap) (hinner : inner ≠ .gap)
    (hbody : bodyLength (body ++ '"' :: w.map Prod.fst) = some body.length) :
    GapsOutside (('"', outer) :: (body.map (·, inner) ++ ('"', outer) :: w)) := by
  have hinside : List.zipWith (fun c inside => isGap c && !inside) body
      (List.replicate body.length true) = List.replicate body.length false := by
    clear hbody
    induction body with
    | nil => rfl
    | cons c body ih => simp [List.replicate_succ, ih]
  rw [GapsOutside] at h
  simp [GapsOutside, Function.comp_def, inQuotes_span hbody, List.zipWith_append, hinside, houter,
    hinner, h]

theorem Placed.gapsOutside {depth : Nat} {w : List (Char × Role)} (h : Placed depth w) :
    GapsOutside w := by
  induction h with
  | done => rfl
  | gap hc _ ih =>
    apply ih.cons _ (by simp [hc])
    rintro rfl
    exact absurd hc (by decide)
  | opening _ ih => exact ih.cons (by simp) rfl
  | closing _ ih => exact ih.cons (by simp) rfl
  | not _ ih => exact ih.cons (by simp) rfl
  | word hfree _ ih =>
    obtain ⟨hgap, hquote, -⟩ := isFree_iff.mp hfree
    exact ih.cons (fun h => absurd h hquote) (by simp [hgap])
  | quoted body hbody _ ih => exact ih.span (by simp) (by simp) hbody
  | strayQuoted body hbody _ ih => exact ih.span (by simp) (by simp) hbody
  | join hspells _ _ ih =>
    obtain ⟨⟨hc, hc'⟩, hd, hd'⟩ := letters_of_spellsOr hspells
    exact (ih.cons (fun h => absurd h hd') (by simp [hd])).cons (fun h => absurd h hc')
      (by simp [hc])
  | stray hgap hquote _ ih => exact ih.cons hquote (by simp [hgap])

theorem exists_placed (text : List Char) : ∃ w : List (Char × Role), w.map Prod.fst = text ∧
    w.map Prod.snd = ofChars text ∧ Placed 0 w ∧ JoinsPlaced [] w := by
  obtain ⟨w, rfl, hscans⟩ := exists_scans .gap 0 text
  obtain ⟨v, waiting, hle, hfst, hanswer, hv⟩ := hscans.answers
  obtain rfl := Nat.le_zero.mp hle
  have hstart : Role.opening.endsOperand → OperandEnds [] := by simp [Role.endsOperand]
  obtain ⟨u, hfst', hdrop, hu, hjoins⟩ := hv.undangles hstart
  refine ⟨u, hfst'.trans hfst, ?_, hu, hjoins⟩
  rw [ofChars, hscans.scan_eq, hanswer, hdrop]

theorem zip_ofChars {text : List Char} {w : List (Char × Role)} (hfst : w.map Prod.fst = text)
    (hsnd : w.map Prod.snd = ofChars text) : text.zip (ofChars text) = w := by
  subst hfst
  rw [← hsnd, ← List.unzip_fst, ← List.unzip_snd, List.zip_unzip]

theorem GapsOutside.gap_iff {w : List (Char × Role)} (h : GapsOutside w) {i : Nat} {c : Char}
    (hc : (w.map Prod.fst)[i]? = some c) :
    (w.map Prod.snd)[i]? = some .gap ↔
      isGap c ∧ (inQuotes 0 (w.map Prod.fst))[i]? = some false := by
  have hflags := congrArg (·[i]?) h
  obtain ⟨⟨c, role⟩, hp, rfl⟩ := Option.map_eq_some_iff.mp (List.getElem?_map ▸ hc)
  simp only [List.getElem?_map, hp, Option.map_some, List.getElem?_zipWith] at hflags ⊢
  cases hinside : (inQuotes 0 (w.map Prod.fst))[i]? with
  | none => simp [hinside] at hflags
  | some inside =>
    have hrole : decide (role = .gap) = (isGap c && !inside) := by
      simpa [hinside] using hflags
    rw [Option.some.injEq, ← decide_eq_true_iff (p := role = .gap), hrole]
    simp

theorem wellFormed_ofChars (text : List Char) : WellFormed text (ofChars text) := by
  obtain ⟨w, rfl, hsnd, hplaced, hjoins⟩ := exists_placed text
  have hzip := zip_ofChars rfl hsnd
  constructor
  · rw [← hsnd, List.length_map, List.length_map]
  · rw [hzip]
    cases hplaced.closes with
    | last h => exact h
  · rwa [hzip]
  · intro i c hc
    rw [← hsnd]
    exact hplaced.gapsOutside.gap_iff hc

end SocketWatch.Mask

namespace SocketWatch.Filter

/-- The only texts without a mask are those above the limit, and no text has an ill-formed one. -/
theorem exists_wellFormed_mask (text : String) : ∃ mask, Mask.WellFormed text.toList mask ∧
    Filter.mask text =
      if text.utf8ByteSize ≤ maxBytes then .ok mask else .error (.tooLong text.utf8ByteSize) := by
  refine ⟨Mask.ofChars text.toList, Mask.wellFormed_ofChars text.toList, ?_⟩
  rw [mask, checkSize]
  split
  · rfl
  · rfl

end SocketWatch.Filter
