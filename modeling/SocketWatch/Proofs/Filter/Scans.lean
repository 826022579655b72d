import SocketWatch.Proofs.Filter.Scanning

namespace SocketWatch.Mask

open Grammar (isFree isFree_iff scan_ahead scan_word)

inductive Stray (prev : Role) (depth : Nat) (rest : List Char) : Char → Prop where
  | opening (h : prev.admitsOperand = false) : Stray prev depth rest '('
  | closing (h : depth = 0) : Stray prev depth rest ')'
  | not (h : prev.admitsOperand = false) : Stray prev depth rest '!'
  | quote (h : bodyLength rest = none) : Stray prev depth rest '"'
  | letter {c : Char} (hfree : isFree c) (hjoin : joinAt prev c rest = none)
    (h : prev.admitsLiteral = false) : Stray prev depth rest c

inductive Scans : Role → Nat → List (Char × Role) → Prop where
  | done {prev : Role} {depth : Nat} : Scans prev depth []
  | gap {prev : Role} {depth : Nat} {c : Char} {w : List (Char × Role)} (h : isGap c)
    (rest : Scans .gap depth w) : Scans prev depth ((c, .gap) :: w)
  | opening {prev : Role} {depth : Nat} {w : List (Char × Role)} (h : prev.admitsOperand)
    (rest : Scans .opening (depth + 1) w) : Scans prev depth (('(', .opening) :: w)
  | closing {prev : Role} {depth : Nat} {w : List (Char × Role)}
    (rest : Scans .closing depth w) : Scans prev (depth + 1) ((')', .closing) :: w)
  | not {prev : Role} {depth : Nat} {w : List (Char × Role)} (h : prev.admitsOperand)
    (rest : Scans .not depth w) : Scans prev depth (('!', .not) :: w)
  | quoted {prev : Role} {depth : Nat} {w : List (Char × Role)} (body : List Char)
    (h : prev.admitsLiteral)
    (hbody : bodyLength (body ++ '"' :: w.map Prod.fst) = some body.length)
    (rest : Scans .quote depth w) :
    Scans prev depth (('"', .quote) :: (body.map (·, .quoted) ++ ('"', .quote) :: w))
  | strayQuoted {prev : Role} {depth : Nat} {w : List (Char × Role)} (body : List Char)
    (h : prev.admitsLiteral = false)
    (hbody : bodyLength (body ++ '"' :: w.map Prod.fst) = some body.length)
    (rest : Scans prev depth w) :
    Scans prev depth (('"', .ignored) :: (body.map (·, .ignored) ++ ('"', .ignored) :: w))
  | join {prev role next : Role} {depth : Nat} {c d : Char} {w : List (Char × Role)}
    (hfree : isFree c) (h : joinAt prev c (d :: w.map Prod.fst) = some (role, next))
    (rest : Scans next depth w) : Scans prev depth ((c, role) :: (d, role) :: w)
  | word {prev : Role} {depth : Nat} {c : Char} {w : List (Char × Role)} (hfree : isFree c)
    (hjoin : joinAt prev c (w.map Prod.fst) = none) (h : prev.admitsLiteral)
    (rest : Scans .word depth w) : Scans prev depth ((c, .word) :: w)
  | stray {prev : Role} {depth : Nat} {c : Char} {w : List (Char × Role)}
    (h : Stray prev depth (w.map Prod.fst) c) (rest : Scans prev depth w) :
    Scans prev depth ((c, .ignored) :: w)

theorem bodyLength_eq_some {text : List Char} {n : Nat} (h : bodyLength text = some n) :
    ∃ body rest, text = body ++ '"' :: rest ∧ body.length = n := by
  fun_induction bodyLength text generalizing n with
  | case1 => cases h
  | case2 rest ih =>
    obtain ⟨m, hm, rfl⟩ := Option.map_eq_some_iff.mp h
    obtain ⟨body, rest, rfl, rfl⟩ := ih hm
    exact ⟨'"' :: '"' :: body, rest, rfl, rfl⟩
  | case3 rest =>
    obtain rfl := Option.some.inj h
    exact ⟨[], rest, rfl, rfl⟩
  | case4 c rest _ _ ih =>
    obtain ⟨m, hm, rfl⟩ := Option.map_eq_some_iff.mp h
    obtain ⟨body, rest, rfl, rfl⟩ := ih hm
    exact ⟨c :: body, rest, rfl, rfl⟩

theorem joinAt_eq_some {prev role next : Role} {c : Char} {text : List Char}
    (h : joinAt prev c text = some (role, next)) :
    ∃ d rest, text = d :: rest ∧ spellsOr c d ∧ (role = .or ∨ role = .ignored) := by
  have hends (role : Role) (hrole : (if prev = .gap then Role.or else .ignored) = role) :
      role = .or ∨ role = .ignored := by
    rw [← hrole]
    split <;> simp
  fun_cases joinAt prev c text with
  | case1 => cases h
  | case2 d hjoin =>
    simp only [joinAt, hjoin, if_true, Option.some.injEq, Prod.mk.injEq] at h
    exact ⟨d, [], rfl, (Bool.and_eq_true_iff.mp hjoin).2, hends role h.1⟩
  | case3 d hjoin e rest hgap =>
    simp only [joinAt, hjoin, hgap, if_true, Option.some.injEq, Prod.mk.injEq] at h
    exact ⟨d, e :: rest, rfl, (Bool.and_eq_true_iff.mp hjoin).2, hends role h.1⟩
  | case4 d hjoin e rest hgap hglued =>
    simp only [joinAt, hjoin, hgap, hglued, if_true, Bool.false_eq_true, if_false,
      Option.some.injEq, Prod.mk.injEq] at h
    exact ⟨d, e :: rest, rfl, (Bool.and_eq_true_iff.mp hjoin).2, .inr h.1.symm⟩
  | case5 d hjoin e rest hgap hglued => simp [joinAt, hjoin, hgap, hglued] at h
  | case6 d rest hjoin => simp [joinAt, hjoin] at h

theorem exists_scans (prev : Role) (depth : Nat) (text : List Char) :
    ∃ w, w.map Prod.fst = text ∧ Scans prev depth w := by
  -- Not by the tail alone: a quoted literal and the letters of a join are taken as a whole.
  induction hn : text.length using Nat.strong_induction_on generalizing prev depth text with
  | _ n ih =>
    cases text with
    | nil => exact ⟨[], rfl, .done⟩
    | cons c rest =>
      have hshorter (prev : Role) (depth : Nat) (later : List Char)
          (hlater : later.length ≤ rest.length) :
          ∃ w, w.map Prod.fst = later ∧ Scans prev depth w :=
        ih later.length (by rw [← hn, List.length_cons]; omega) prev depth later rfl
      have hstray (h : Stray prev depth rest c) :
          ∃ w, w.map Prod.fst = c :: rest ∧ Scans prev depth w := by
        obtain ⟨w, rfl, hw⟩ := hshorter prev depth rest le_rfl
        exact ⟨_, rfl, .stray h hw⟩
      by_cases hgap : isGap c
      · obtain ⟨w, rfl, hw⟩ := hshorter .gap depth rest le_rfl
        exact ⟨_, rfl, .gap hgap hw⟩
      by_cases hopening : c = '('
      · subst hopening
        by_cases h : prev.admitsOperand
        · obtain ⟨w, rfl, hw⟩ := hshorter .opening (depth + 1) rest le_rfl
          exact ⟨_, rfl, .opening h hw⟩
        · exact hstray (.opening (by simpa using h))
      by_cases hclosing : c = ')'
      · subst hclosing
        cases depth with
        | zero => exact hstray (.closing rfl)
        | succ depth =>
          obtain ⟨w, rfl, hw⟩ := hshorter .closing depth rest le_rfl
          exact ⟨_, rfl, .closing hw⟩
      by_cases hnot : c = '!'
      · subst hnot
        by_cases h : prev.admitsOperand
        · obtain ⟨w, rfl, hw⟩ := hshorter .not depth rest le_rfl
          exact ⟨_, rfl, .not h hw⟩
        · exact hstray (.not (by simpa using h))
      by_cases hquote : c = '"'
      · subst hquote
        cases hbody : bodyLength rest with
        | none => exact hstray (.quote hbody)
        | some n =>
          obtain ⟨body, later, rfl, rfl⟩ := bodyLength_eq_some hbody
          have hlater : later.length ≤ (body ++ '"' :: later).length := by
            simp only [List.length_append, List.length_cons]
            omega
          by_cases h : prev.admitsLiteral
          · obtain ⟨w, rfl, hw⟩ := hshorter .quote depth later hlater
            exact ⟨_, by simp [Function.comp_def], .quoted body h hbody hw⟩
          · obtain ⟨w, rfl, hw⟩ := hshorter prev depth later hlater
            exact ⟨_, by simp [Function.comp_def], .strayQuoted body (by simpa using h) hbody hw⟩
      have hfree : isFree c :=
        isFree_iff.mpr ⟨by simpa using hgap, hquote, hopening, hclosing, hnot⟩
      cases hjoin : joinAt prev c rest with
      | some roles =>
        obtain ⟨d, later, rfl, -, -⟩ := joinAt_eq_some hjoin
        obtain ⟨w, rfl, hw⟩ := hshorter roles.2 depth later (by simp)
        exact ⟨_, rfl, .join hfree hjoin hw⟩
      | none =>
        by_cases h : prev.admitsLiteral
        · obtain ⟨w, rfl, hw⟩ := hshorter .word depth rest le_rfl
          exact ⟨_, rfl, .word hfree hjoin h hw⟩
        · exact hstray (.letter hfree hjoin (by simpa using h))

theorem Stray.scan_eq {prev : Role} {depth : Nat} {rest : List Char} {c : Char}
    (h : Stray prev depth rest c) :
    scan prev depth [] (c :: rest) = .ignored :: scan prev depth [] rest := by
  cases h with
  | opening h => simp [scan, isGap, h]
  | closing h => simp [scan, isGap, h]
  | not h => simp [scan, isGap, h]
  | quote h => simp [scan, isGap, h]
  | letter hfree hjoin h =>
    obtain ⟨hgap, hquote, hopening, hclosing, hnot⟩ := isFree_iff.mp hfree
    simp [scan, hgap, hquote, hopening, hclosing, hnot, hjoin, h]

theorem Scans.scan_eq {prev : Role} {depth : Nat} {w : List (Char × Role)}
    (h : Scans prev depth w) : scan prev depth [] (w.map Prod.fst) = w.map Prod.snd := by
  induction h with
  | done => rfl
  | gap h _ ih => simp [scan, h, ih]
  | opening h _ ih => simp [scan, isGap, h, ih]
  | closing _ ih => simp [scan, isGap, ih]
  | not h _ ih => simp [scan, isGap, h, ih]
  | @quoted prev depth w body h hbody _ ih =>
    have hahead := scan_ahead .quote depth (List.replicate body.length .quoted ++ [.quote])
      (body ++ ['"']) (w.map Prod.fst) (by simp)
    simp only [List.append_assoc, List.cons_append, List.nil_append] at hahead
    simp [scan, isGap, Function.comp_def, hbody, h, hahead, ih, List.map_const']
  | @strayQuoted prev depth w body h hbody _ ih =>
    have hahead := scan_ahead prev depth (List.replicate body.length .ignored ++ [.ignored])
      (body ++ ['"']) (w.map Prod.fst) (by simp)
    simp only [List.append_assoc, List.cons_append, List.nil_append] at hahead
    simp [scan, isGap, Function.comp_def, hbody, h, hahead, ih, List.map_const',
      List.replicate_succ']
  | join hfree h _ ih =>
    obtain ⟨hgap, hquote, hopening, hclosing, hnot⟩ := isFree_iff.mp hfree
    simp [scan, hgap, hquote, hopening, hclosing, hnot, h, ih]
  | word hfree hjoin h _ ih => rw [List.map_cons, scan_word _ h hfree hjoin, ih, List.map_cons]
  | stray h _ ih => rw [List.map_cons, h.scan_eq, ih, List.map_cons]

end SocketWatch.Mask

namespace SocketWatch

def Role.fits (c : Char) : Role → Bool
  | .gap => Mask.isGap c
  | .opening => c == '('
  | .closing => c == ')'
  | .not => c == '!'
  | .quote => c == '"'
  | .word => Grammar.isFree c
  | .quoted | .ignored => true
  | .or => false

namespace Mask

inductive Spelled : List (Char × Role) → Prop where
  | nil : Spelled []
  | or {c d : Char} {w : List (Char × Role)} (h : spellsOr c d) (rest : Spelled w) :
    Spelled ((c, .or) :: (d, .or) :: w)
  | cons {c : Char} {role : Role} {w : List (Char × Role)} (h : role.fits c) (rest : Spelled w) :
    Spelled ((c, role) :: w)

theorem Spelled.run {role : Role} {cs : List Char} {w : List (Char × Role)}
    (h : ∀ c ∈ cs, role.fits c) (rest : Spelled w) : Spelled (cs.map (·, role) ++ w) := by
  induction cs with
  | nil => exact rest
  | cons c cs ih => exact .cons (h c (by simp)) (ih fun x hx => h x (by simp [hx]))

theorem Scans.spelled {prev : Role} {depth : Nat} {w : List (Char × Role)}
    (h : Scans prev depth w) : Spelled w := by
  induction h with
  | done => exact .nil
  | gap h _ ih => exact .cons h ih
  | opening _ _ ih => exact .cons rfl ih
  | closing _ ih => exact .cons rfl ih
  | not _ _ ih => exact .cons rfl ih
  | quoted body _ _ _ ih => exact .cons rfl (.run (fun _ _ => rfl) (.cons rfl ih))
  | strayQuoted body _ _ _ ih => exact .cons rfl (.run (fun _ _ => rfl) (.cons rfl ih))
  | @join prev role next depth c d w _ h _ ih =>
    obtain ⟨x, rest, htext, hspells, hrole⟩ := joinAt_eq_some h
    obtain ⟨rfl, -⟩ := List.cons.inj htext
    rcases hrole with rfl | rfl
    · exact .or hspells ih
    · exact .cons rfl (.cons rfl ih)
  | word hfree _ _ _ ih => exact .cons hfree ih
  | stray _ _ ih => exact .cons rfl ih

end Mask

end SocketWatch
