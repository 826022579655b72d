import SocketWatch.Proofs.Filter.Derivation
import SocketWatch.Proofs.Filter.WellFormed

/-!
The filter that a mask shows. A marked text is cut into operands and what stands between them, and
each operand is a group or a run of characters that no other character of a literal touches. Main
statement: every text is read as the one filter that its mask shows.
-/

namespace SocketWatch

def Role.inLiteral : Role → Bool
  | .word | .quote | .quoted | .ignored => true
  | _ => false

namespace Mask

open Grammar (isFree isFree_iff readFrom extend_extend undouble_doubled ofMask_quoted)
open Token (extend ofMask)

def Between (w : List (Char × Role)) : Prop :=
  ∀ p ∈ w, p.2 = .gap ∨ p.2 = .ignored ∨ p.2 = .or ∨ p.2 = .not

def joinIn (w : List (Char × Role)) : Join :=
  if .or ∈ w.map Prod.snd then .or else .and

def negatedIn (w : List (Char × Role)) : Bool := (w.map Prod.snd).count .not % 2 == 1

inductive Writes : List (Char × Role) → List Char → Prop where
  | nil : Writes [] []
  | ignored {c : Char} {run : List (Char × Role)} {text : List Char} (rest : Writes run text) :
    Writes ((c, .ignored) :: run) text
  | word {c : Char} {run : List (Char × Role)} {text : List Char} (h : isFree c)
    (rest : Writes run text) : Writes ((c, .word) :: run) (c :: text)
  | quoted {run : List (Char × Role)} {text : List Char} (literal : List Char)
    (rest : Writes run text) :
    Writes (('"', .quote) ::
      ((literal.flatMap doubled).map (·, .quoted) ++ ('"', .quote) :: run)) (literal ++ text)

def HoldsLiteral (run : List (Char × Role)) : Prop := ∃ p ∈ run, p.2 = .word ∨ p.2 = .quote

/-- The operands that a marked text shows, each with the join in front of it. What the first one is
joined by is void. -/
inductive Shows : List (Char × Role) → List (Join × Operand) → Prop where
  | done {between : List (Char × Role)} (h : Between between) : Shows between []
  | literal {between run w : List (Char × Role)} {text : List Char}
    {operands : List (Join × Operand)} (hbetween : Between between) (hrun : Writes run text)
    (hliteral : HoldsLiteral run) (hbefore : ∀ p ∈ between.getLast?, p.2.inLiteral = false)
    (hafter : ∀ p ∈ w.head?, p.2.inLiteral = false) (rest : Shows w operands) :
    Shows (between ++ (run ++ w))
      ((joinIn between, .literal (negatedIn between) (String.ofList text)) :: operands)
  | group {between inner w : List (Char × Role)} {children operands : List (Join × Operand)}
    (hbetween : Between between) (hinner : Shows inner children) (rest : Shows w operands) :
    Shows (between ++ ('(', .opening) :: (inner ++ (')', .closing) :: w))
      ((joinIn between, .group (negatedIn between) (.ofList children)) :: operands)

theorem Shows.behind {between w : List (Char × Role)} {operands : List (Join × Operand)}
    (h : Shows w operands) (hbetween : Between between)
    (hlast : ∀ p ∈ between.getLast?, p.2.inLiteral = false) :
    ∃ operands, Shows (between ++ w) operands := by
  have append {v : List (Char × Role)} (hv : Between v) : Between (between ++ v) := by
    intro p hp
    exact (List.mem_append.mp hp).elim (hbetween p) (hv p)
  cases h with
  | done hv => exact ⟨[], .done (append hv)⟩
  | @literal v run w text operands hv hrun hliteral hbefore hafter rest =>
    have hbefore' : ∀ p ∈ (between ++ v).getLast?, p.2.inLiteral = false := by
      cases v with
      | nil => simpa using hlast
      | cons q v => simpa using hbefore
    rw [← List.append_assoc]
    exact ⟨_, .literal (append hv) hrun hliteral hbefore' hafter rest⟩
  | @group v inner w children operands hv hinner rest =>
    rw [← List.append_assoc]
    exact ⟨_, .group (append hv) hinner rest⟩

theorem Formed.exists_run {w : List (Char × Role)} (h : Formed w) : ∃ run text rest,
    w = run ++ rest ∧ Writes run text ∧ Formed rest ∧
      ∀ p ∈ rest.head?, p.2.inLiteral = false := by
  induction h with
  | nil => exact ⟨[], [], [], rfl, .nil, .nil, by simp⟩
  | @apart c role w hrole hw ih =>
    by_cases hignored : role = .ignored
    · obtain ⟨run, text, rest, rfl, hrun, hrest, hhead⟩ := ih
      subst hignored
      exact ⟨(c, .ignored) :: run, text, rest, rfl, .ignored hrun, hrest, hhead⟩
    · refine ⟨[], [], (c, role) :: w, rfl, .nil, .apart hrole hw, ?_⟩
      rcases hrole with rfl | rfl | rfl
      · simp [Role.inLiteral]
      · exact absurd rfl hignored
      · simp [Role.inLiteral]
  | not hw _ => exact ⟨[], [], _, rfl, .nil, .not hw, by simp [Role.inLiteral]⟩
  | @word c w hfree _ ih =>
    obtain ⟨run, text, rest, rfl, hrun, hrest, hhead⟩ := ih
    exact ⟨(c, .word) :: run, c :: text, rest, rfl, .word hfree hrun, hrest, hhead⟩
  | quoted literal _ ih =>
    obtain ⟨run, text, rest, rfl, hrun, hrest, hhead⟩ := ih
    exact ⟨_, literal ++ text, rest, by simp, .quoted literal hrun, hrest, hhead⟩
  | group hinner hw _ _ =>
    exact ⟨[], [], _, rfl, .nil, .group hinner hw, by simp [Role.inLiteral]⟩

theorem Writes.holdsLiteral_or {run : List (Char × Role)} {text : List Char}
    (h : Writes run text) : HoldsLiteral run ∨ ∀ p ∈ run, p.2 = .ignored := by
  induction h with
  | nil => simp
  | word => exact .inl ⟨_, List.mem_cons_self, .inl rfl⟩
  | quoted => exact .inl ⟨_, List.mem_cons_self, .inr rfl⟩
  | ignored _ ih =>
    rcases ih with ⟨p, hp, hrole⟩ | hrest
    · exact .inl ⟨p, List.mem_cons_of_mem _ hp, hrole⟩
    · exact .inr (by simpa using hrest)

theorem Formed.exists_shows {w : List (Char × Role)} (h : Formed w) :
    ∃ operands, Shows w operands := by
  -- Not by the judgment: a run is taken as a whole, and all behind it is shorter.
  induction hn : w.length using Nat.strong_induction_on generalizing w with
  | _ n ih =>
    obtain ⟨run, text, rest, rfl, hrun, hrest, hhead⟩ := h.exists_run
    rcases hrun.holdsLiteral_or with hliteral | hignored
    · have hlt : rest.length < n := by
        obtain ⟨p, hp, -⟩ := hliteral
        have hpos := List.length_pos_of_mem hp
        rw [← hn, List.length_append]
        omega
      obtain ⟨operands, hoperands⟩ := ih rest.length hlt hrest rfl
      have hnone : Between [] := by simp [Between]
      exact ⟨_, .literal hnone hrun hliteral (by simp) hhead hoperands⟩
    · have hbetween : Between run := fun p hp => .inr (.inl (hignored p hp))
      -- The run and one more character that is no part of a literal.
      have behind {p : Char × Role} {w : List (Char × Role)} (hp : Between [p])
          (hlast : p.2.inLiteral = false) (hw : Formed w) (hlt : w.length < n) :
          ∃ operands, Shows (run ++ p :: w) operands := by
        obtain ⟨operands, hoperands⟩ := ih w.length hlt hw rfl
        have hall : Between (run ++ [p]) := by
          intro q hq
          exact (List.mem_append.mp hq).elim (hbetween q) (hp q)
        have hshows := hoperands.behind hall (by simpa using hlast)
        rwa [List.append_assoc] at hshows
      rw [List.length_append] at hn
      cases hrest with
      | nil => exact ⟨[], .done (by simpa using hbetween)⟩
      | word => simp [Role.inLiteral] at hhead
      | quoted => simp [Role.inLiteral] at hhead
      | @apart c role w hrole hw =>
        rw [List.length_cons] at hn
        apply behind _ _ hw (by omega)
        · rcases hrole with h | h | h <;> simp [Between, h]
        · simpa using hhead
      | not hw =>
        rw [List.length_cons] at hn
        exact behind (by simp [Between]) rfl hw (by omega)
      | @group inner w hinner hw =>
        simp only [List.length_cons, List.length_append] at hn
        obtain ⟨children, hchildren⟩ := ih inner.length (by omega) hinner rfl
        obtain ⟨operands, hoperands⟩ := ih w.length (by omega) hw rfl
        exact ⟨_, .group hbetween hchildren hoperands⟩

theorem extend_of_head {w : List (Char × Role)} (h : ∀ p ∈ w.head?, p.2.inLiteral = false)
    (written : List Char) : extend written (ofMask w) = .literal written :: ofMask w := by
  match w with
  | [] => rfl
  | (c, role) :: w =>
    have hrole : role.inLiteral = false := h (c, role) rfl
    cases role <;> first | rfl | cases hrole

theorem Writes.extend_ofMask {run : List (Char × Role)} {text : List Char} (h : Writes run text)
    (written : List Char) (w : List (Char × Role)) :
    extend written (ofMask (run ++ w)) = extend (written ++ text.flatMap doubled) (ofMask w) := by
  induction h generalizing written with
  | nil => simp
  | ignored _ ih => exact ih written
  | @word c run text hfree _ ih =>
    have hc : doubled c = [c] := by simp [doubled, (isFree_iff.mp hfree).2.1]
    rw [List.cons_append, ofMask, extend_extend, ih, List.flatMap_cons, hc, List.append_assoc]
  | quoted literal _ ih =>
    simp only [List.cons_append, List.append_assoc, ofMask, ofMask_quoted, extend_extend, ih,
      List.flatMap_append, List.nil_append]

theorem Writes.ofMask_append {run : List (Char × Role)} {text : List Char} (h : Writes run text)
    (hliteral : HoldsLiteral run) {w : List (Char × Role)}
    (hafter : ∀ p ∈ w.head?, p.2.inLiteral = false) :
    ofMask (run ++ w) = .literal (text.flatMap doubled) :: ofMask w := by
  rw [← extend_of_head hafter]
  induction h with
  | nil => simp [HoldsLiteral] at hliteral
  | ignored _ ih =>
    apply ih
    simpa [HoldsLiteral] using hliteral
  | @word c run text hfree hrun _ =>
    have hc : doubled c = [c] := by simp [doubled, (isFree_iff.mp hfree).2.1]
    rw [List.cons_append, ofMask, hrun.extend_ofMask, List.flatMap_cons, hc]
  | quoted literal hrun _ =>
    simp only [List.cons_append, List.append_assoc, ofMask, ofMask_quoted, extend_extend,
      hrun.extend_ofMask, List.flatMap_append, List.nil_append]

theorem negatedIn_cons (p : Char × Role) (w : List (Char × Role)) :
    negatedIn (p :: w) = (decide (p.2 = .not) ^^ negatedIn w) := by
  rcases Nat.mod_two_eq_zero_or_one ((w.map Prod.snd).count .not) with h | h <;>
    by_cases hnot : p.2 = .not <;> simp [negatedIn, Nat.add_mod, h, hnot]

theorem readFrom_between_of {between : List (Char × Role)} (h : Between between)
    (operands : List (Join × Operand)) (join : Join) (negated : Bool) (around : List Level)
    (w : List (Char × Role)) :
    readFrom { current := { operands, join, negated }, around } (between ++ w) =
      readFrom
        { current :=
            { operands
              join := if .or ∈ between.map Prod.snd then .or else join
              negated := negated ^^ negatedIn between }
          around } w := by
  induction between generalizing join negated with
  | nil => simp [negatedIn]
  | cons p between ih =>
    have hrest := ih fun q hq => h q (by simp [hq])
    have hp := h p (by simp)
    obtain ⟨c, role⟩ := p
    have hmem : .or ∈ ((c, role) :: between).map Prod.snd ↔
        role = .or ∨ .or ∈ between.map Prod.snd := by
      rw [List.map_cons, List.mem_cons, eq_comm]
    simp only [hmem, negatedIn_cons, List.cons_append]
    rcases hp with rfl | rfl | rfl | rfl <;>
      simp only [reduceCtorEq, false_or, true_or, if_true, decide_true, decide_false,
        ← Bool.xor_assoc, Bool.xor_true, Bool.xor_false]
    · exact hrest join negated
    · exact hrest join negated
    · have hor := hrest .or negated
      rw [ite_self] at hor
      exact hor
    · exact hrest join (!negated)

theorem readFrom_between {between : List (Char × Role)} (h : Between between)
    (operands : List (Join × Operand)) (around : List Level) (w : List (Char × Role)) :
    readFrom { current := { operands }, around } (between ++ w) =
      readFrom
        { current := { operands, join := joinIn between, negated := negatedIn between }, around }
        w := by
  rw [readFrom_between_of h, Bool.false_xor, joinIn]

theorem Shows.readFrom_append {v : List (Char × Role)} {shown : List (Join × Operand)}
    (h : Shows v shown) : ∀ (operands : List (Join × Operand)) (around : List Level)
      {w : List (Char × Role)}, (∀ p ∈ w.head?, p.2 = .closing) →
        ∃ join negated, readFrom { current := { operands }, around } (v ++ w) =
          readFrom { current := { operands := shown.reverse ++ operands, join, negated }, around }
            w := by
  induction h with
  | @done between hbetween =>
    intro operands around w _
    exact ⟨joinIn between, negatedIn between, readFrom_between hbetween operands around w⟩
  | @literal between run rest text shown hbetween hrun hliteral _ hafter _ ih =>
    intro operands around w hw
    have hhead : ∀ p ∈ (rest ++ w).head?, p.2.inLiteral = false := by
      cases rest with
      | nil => exact fun p hp => by rw [hw p hp]; rfl
      | cons q rest => simpa using hafter
    obtain ⟨join, negated, hrest⟩ :=
      ih ((joinIn between, .literal (negatedIn between) (String.ofList text)) :: operands) around hw
    refine ⟨join, negated, ?_⟩
    rw [List.append_assoc, readFrom_between hbetween, List.append_assoc, readFrom,
      hrun.ofMask_append hliteral hhead]
    simpa [readFrom, Reading.step, Level.push, undouble_doubled] using hrest
  | @group between inner rest children shown hbetween _ _ ihinner ih =>
    intro operands around w hw
    let level : Level := { operands, join := joinIn between, negated := negatedIn between }
    have hclosing : ∀ p ∈ ((')', Role.closing) :: (rest ++ w)).head?, p.2 = .closing := by simp
    obtain ⟨join', negated', hinner⟩ := ihinner [] (level :: around) hclosing
    obtain ⟨join, negated, hrest⟩ :=
      ih ((joinIn between, .group (negatedIn between) (.ofList children)) :: operands) around hw
    refine ⟨join, negated, ?_⟩
    simp only [List.append_assoc, List.cons_append, List.reverse_cons, List.nil_append]
    calc readFrom { current := { operands }, around }
          (between ++ ('(', .opening) :: (inner ++ (')', .closing) :: (rest ++ w)))
        = readFrom { current := level, around }
            (('(', .opening) :: (inner ++ (')', .closing) :: (rest ++ w))) :=
          readFrom_between hbetween operands around _
      _ = readFrom { around := level :: around } (inner ++ (')', .closing) :: (rest ++ w)) := rfl
      _ = readFrom
            { current :=
                { operands := children.reverse ++ [], join := join', negated := negated' }
              around := level :: around }
            ((')', .closing) :: (rest ++ w)) := hinner
      _ = readFrom
            { current :=
                { operands := (level.join, .group level.negated (.ofList children)) :: operands }
              around }
            (rest ++ w) := by
          simp [readFrom, ofMask, Reading.step, Level.close, Level.push, Level.filter, level]
      _ = readFrom
            { current :=
                { operands := shown.reverse ++
                    (joinIn between, .group (negatedIn between) (.ofList children)) :: operands
                  join
                  negated }
              around }
            w := hrest

def tokenDepth (depth : Nat) : Token → Nat
  | .opening => depth + 1
  | .closing => depth - 1
  | _ => depth

def depthAfter (depth : Nat) (w : List (Char × Role)) : Nat := (ofMask w).foldl tokenDepth depth

theorem length_around_readFrom (reading : Reading) (w : List (Char × Role)) :
    (readFrom reading w).around.length = depthAfter reading.around.length w := by
  rw [readFrom, depthAfter]
  induction ofMask w generalizing reading with
  | nil => rfl
  | cons token tokens ih =>
    have hstep : (reading.step token).around.length =
        tokenDepth reading.around.length token := by
      cases token with
      | closing => cases h : reading.around <;> simp [Reading.step, tokenDepth, h]
      | _ => rfl
    rw [List.foldl_cons, List.foldl_cons, ih, hstep]

theorem foldl_tokenDepth_extend (written : List Char) (tokens : List Token) (depth : Nat) :
    (extend written tokens).foldl tokenDepth depth = tokens.foldl tokenDepth depth := by
  match tokens with
  | .literal more :: tokens => rfl
  | [] | .gap :: _ | .or :: _ | .not :: _ | .opening :: _ | .closing :: _ => rfl

theorem depthAfter_run (depth : Nat) {run : List (Char × Role)}
    (hrun : ∀ p ∈ run, p.2 ≠ .opening ∧ p.2 ≠ .closing) (w : List (Char × Role)) :
    depthAfter depth (run ++ w) = depthAfter depth w := by
  induction run with
  | nil => rfl
  | cons p run ih =>
    have hrest := ih fun q hq => hrun q (by simp [hq])
    obtain ⟨hopening, hclosing⟩ := hrun p (by simp)
    obtain ⟨c, role⟩ := p
    cases role with
    | gap | ignored | or | not => exact hrest
    | word | quote | quoted => exact (foldl_tokenDepth_extend _ _ depth).trans hrest
    | opening => exact absurd rfl hopening
    | closing => exact absurd rfl hclosing

def ClosesOpen (depth : Nat) (w : List (Char × Role)) : Prop :=
  ∀ before c after, w = before ++ (c, .closing) :: after → 0 < depthAfter depth before

theorem ClosesOpen.run {depth : Nat} {w : List (Char × Role)} (h : ClosesOpen depth w)
    (run : List (Char × Role)) (hrun : ∀ p ∈ run, p.2 ≠ .opening ∧ p.2 ≠ .closing) :
    ClosesOpen depth (run ++ w) := by
  intro before c after hw
  obtain ⟨later, rfl, rfl⟩ := exists_of_run_append (fun hmem => (hrun _ hmem).2 rfl) hw
  rw [depthAfter_run depth hrun]
  exact h later c after rfl

theorem Placed.closesOpen {depth : Nat} {w : List (Char × Role)} (h : Placed depth w) :
    ClosesOpen depth w := by
  induction h with
  | done => simp [ClosesOpen]
  | @gap _ c _ _ _ ih => exact ih.run [(c, .gap)] (by simp)
  | opening _ ih =>
    intro before c after hw
    cases before with
    | nil => simp at hw
    | cons p before =>
      obtain ⟨rfl, hrest⟩ := List.cons.inj hw
      exact ih before c after hrest
  | closing _ ih =>
    intro before c after hw
    cases before with
    | nil => exact Nat.succ_pos _
    | cons p before =>
      obtain ⟨rfl, hrest⟩ := List.cons.inj hw
      exact ih before c after hrest
  | not _ ih => exact ih.run [('!', .not)] (by simp)
  | @word _ c _ _ _ ih => exact ih.run [(c, .word)] (by simp)
  | quoted body _ _ ih =>
    have hplain : ∀ p ∈ span .quote .quoted body, p.2 ≠ .opening ∧ p.2 ≠ .closing := by
      intro p hp
      rcases role_of_mem_span hp with h | h <;> simp [h]
    simpa using ih.run _ hplain
  | strayQuoted body _ _ ih =>
    have hplain : ∀ p ∈ span .ignored .ignored body, p.2 ≠ .opening ∧ p.2 ≠ .closing := by
      intro p hp
      rcases role_of_mem_span hp with h | h <;> simp [h]
    simpa using ih.run _ hplain
  | @join _ c d _ _ _ _ ih => exact ih.run [(c, .or), (d, .or)] (by simp)
  | @stray _ c _ _ _ _ ih => exact ih.run [(c, .ignored)] (by simp)

theorem Shows.exists_readFrom_eq {w : List (Char × Role)} {shown : List (Join × Operand)}
    (h : Shows w shown) : ∃ join negated,
      readFrom {} w = { current := { operands := shown.reverse, join, negated } } := by
  obtain ⟨join, negated, hread⟩ := h.readFrom_append (w := []) [] [] (by simp)
  rw [List.append_nil, List.append_nil] at hread
  exact ⟨join, negated, hread⟩

theorem Shows.unique {w : List (Char × Role)} {shown shown' : List (Join × Operand)}
    (h : Shows w shown) (h' : Shows w shown') : shown = shown' := by
  obtain ⟨join, negated, hread⟩ := h.exists_readFrom_eq
  obtain ⟨join', negated', hread'⟩ := h'.exists_readFrom_eq
  have hoperands : shown.reverse = shown'.reverse :=
    congrArg (·.current.operands) (hread.symm.trans hread')
  exact List.reverse_injective hoperands

theorem Shows.ofTokens_eq {w : List (Char × Role)} {shown : List (Join × Operand)}
    (h : Shows w shown) : Filter.ofTokens (ofMask w) = .ofList shown := by
  obtain ⟨join, negated, hread⟩ := h.exists_readFrom_eq
  calc Filter.ofTokens (ofMask w)
      = (readFrom {} w).filter := rfl
    _ = .ofList shown := by simp [hread, Reading.filter, Level.filter]

end Mask

namespace Filter

open Mask (Shows)

/-- A text is read as the one list of operands that its mask shows, unless it is refused for its
size. Reading never meets a closing where no group is open, so it never leaves a part of the text
unread. -/
theorem parse_shows (text : String) : ∃ mask shown,
    parse text = (checkSize text).map (fun _ => .ofList shown) ∧
      parseWithMask text = (checkSize text).map (fun _ => (.ofList shown, mask)) ∧
        Filter.mask text = (checkSize text).map (fun _ => mask) ∧
          mask.length = text.toList.length ∧
            (∀ operands, Shows (text.toList.zip mask) operands ↔ operands = shown) ∧
              ∀ before c after, text.toList.zip mask = before ++ (c, .closing) :: after →
                (Grammar.readFrom {} before).around ≠ [] := by
  obtain ⟨w, hfst, hsnd, hplaced, -⟩ := Mask.exists_placed text.toList
  have hzip := Mask.zip_ofChars hfst hsnd
  have hformed : Mask.Formed w := by
    cases hplaced.closes with
    | last h => exact h
  obtain ⟨shown, hshows⟩ := hformed.exists_shows
  have htree : ofMask text.toList (Mask.ofChars text.toList) = .ofList shown := by
    rw [ofMask, hzip, hshows.ofTokens_eq]
  have hlength : (Mask.ofChars text.toList).length = text.toList.length := by
    rw [← hsnd, ← hfst, List.length_map, List.length_map]
  refine ⟨Mask.ofChars text.toList, shown, ?_, ?_, ?_, hlength, ?_, ?_⟩
  · rw [← htree, parse, parseWithMask, mask]
    cases checkSize text <;> rfl
  · rw [← htree, parseWithMask, mask]
    cases checkSize text <;> rfl
  · rw [mask]
    cases checkSize text <;> rfl
  · rw [hzip]
    intro operands
    constructor
    · exact fun hother => hother.unique hshows
    · rintro rfl
      exact hshows
  · rw [hzip]
    intro before c after hw
    apply List.ne_nil_of_length_pos
    rw [Mask.length_around_readFrom]
    exact hplaced.closesOpen before c after hw

example : parse ") a\"b \"\" c\"d or !!(!e or or (\"\") !)or \"f (" =
    .ok (.chain (.literal false "ab \" cd")
      (.next .or
        (.group false (.chain (.literal true "e")
          (.next .or (.group false (.chain (.literal false "") .done)) .done)))
        (.next .and (.literal false "f") .done))) := by
  decide +kernel

end Filter

end SocketWatch
