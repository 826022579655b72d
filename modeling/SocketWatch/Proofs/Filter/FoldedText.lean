import SocketWatch.Proofs.Filter.Derivation
import SocketWatch.Proofs.Filter.Scans
import SocketWatch.Proofs.Text.CaseFold

namespace SocketWatch.Mask

open Grammar (isFree isFree_iff joinAt_of_not_admitsJoin)
open Text (foldChar FoldsTo exists_foldsTo startsOr endsOr isPlain isPlain_iff spellsOr_eq
  foldChar_of_mark foldChar_ne_nil quote_notMem_foldChar)

def foldMarked (w : List (Char × Role)) : List (Char × Role) :=
  w.flatMap fun p => (foldChar p.1).map (·, p.2)

theorem foldMarked_cons (c : Char) (role : Role) (w : List (Char × Role)) :
    foldMarked ((c, role) :: w) = (foldChar c).map (·, role) ++ foldMarked w := rfl

theorem foldMarked_mark {c : Char} (h : isFree c = false) (role : Role) (w : List (Char × Role)) :
    foldMarked ((c, role) :: w) = (c, role) :: foldMarked w := by
  rw [foldMarked_cons, foldChar_of_mark h]
  rfl

theorem foldMarked_run (cs : List Char) (role : Role) (w : List (Char × Role)) :
    foldMarked (cs.map (·, role) ++ w) =
      (cs.flatMap foldChar).map (·, role) ++ foldMarked w := by
  simp [foldMarked, List.flatMap_map, List.map_flatMap]

theorem map_fst_foldMarked (w : List (Char × Role)) :
    (foldMarked w).map Prod.fst = (w.map Prod.fst).flatMap foldChar := by
  simp [foldMarked, List.flatMap_map, List.map_flatMap, Function.comp_def]

theorem bodyLength_append {cs : List Char} (h : '"' ∉ cs) (u : List Char) :
    bodyLength (cs ++ u) = (bodyLength u).map (cs.length + ·) := by
  induction cs with
  | nil => simp
  | cons c cs ih =>
    have hc : c ≠ '"' := by
      rintro rfl
      exact h (by simp)
    have hcs : '"' ∉ cs := fun hmem => h (by simp [hmem])
    simp [bodyLength, hc, ih hcs, Function.comp_def, Nat.add_right_comm]

theorem head_foldChar_ne_quote {text : List Char} (h : text.head? ≠ some '"') :
    (text.flatMap foldChar).head? ≠ some '"' := by
  cases text with
  | nil => simp
  | cons c text =>
    obtain ⟨first, more, hfold⟩ := exists_foldsTo c
    have hquote : isFree '"' = false := rfl
    simpa [hfold.eq, hfold.eq_iff hquote] using h

theorem bodyLength_fold (text : List Char) : bodyLength (text.flatMap foldChar) =
    (bodyLength text).map fun n => ((text.take n).flatMap foldChar).length := by
  have hquote : foldChar '"' = ['"'] := foldChar_of_mark rfl
  fun_induction bodyLength text with
  | case1 => rfl
  | case2 rest ih =>
    simp only [List.flatMap_cons, hquote, List.cons_append, List.nil_append, bodyLength, ih,
      Option.map_map, Function.comp_def, List.take_succ_cons, List.length_cons]
  | case3 rest hrest =>
    have hhead : rest.head? ≠ some '"' := by
      intro hhead
      obtain ⟨more, rfl⟩ := List.head?_eq_some_iff.mp hhead
      exact hrest more rfl
    have hfold := head_foldChar_ne_quote hhead
    rw [List.flatMap_cons, hquote]
    generalize rest.flatMap foldChar = folded at hfold ⊢
    cases folded with
    | nil => rfl
    | cons c folded =>
      have hc : c ≠ '"' := by simpa using hfold
      simp [bodyLength, hc]
  | case4 c rest _ hc ih =>
    rw [List.flatMap_cons, bodyLength_append (quote_notMem_foldChar hc), ih]
    simp only [Option.map_map, Function.comp_def, List.take_succ_cons, List.flatMap_cons,
      List.length_append]

theorem joinAt_of_not_startsOr {c : Char} (h : startsOr c = false) (prev : Role)
    (text : List Char) : joinAt prev c text = none := by
  cases text <;> simp [joinAt, spellsOr_eq, h]

theorem joinAt_fold {c first : Char} {more : List Char} (hc : FoldsTo c first more) (prev : Role)
    (text : List Char) :
    joinAt prev first (more ++ text.flatMap foldChar) = joinAt prev c text := by
  -- Three characters decide it: the letters of the join and the one behind them.
  by_cases hstarts : startsOr c
  · have hmore : more = [] := hc.alone (by simp [isPlain, hstarts])
    cases text with
    | nil => simp [hmore, joinAt]
    | cons d text =>
      obtain ⟨d', more', hd⟩ := exists_foldsTo d
      have hspells : spellsOr first d' = spellsOr c d := by
        rw [spellsOr_eq, spellsOr_eq, hc.starts, hd.ends]
      by_cases hends : endsOr d
      · have hmore' : more' = [] := hd.alone (by simp [isPlain, hends])
        cases text with
        | nil => simp [joinAt, hmore, hd.eq, hmore', hspells]
        | cons e text =>
          obtain ⟨e', more'', he⟩ := exists_foldsTo e
          have hmark (x : Char) (hx : isFree x = false) : (e' = x) = (e = x) :=
            propext (he.eq_iff hx)
          simp [joinAt, hmore, hd.eq, hmore', hspells, he.eq, he.isGap_eq,
            hmark '(' rfl, hmark ')' rfl, hmark '!' rfl]
      · have hnone : spellsOr c d = false := by simp [spellsOr_eq, hends]
        simp [joinAt, hmore, hd.eq, hspells, hnone]
  · have hfirst : startsOr first = false := by
      rw [hc.starts]
      simpa using hstarts
    rw [joinAt_of_not_startsOr hfirst, joinAt_of_not_startsOr (by simpa using hstarts)]

theorem foldsTo_of_spellsOr {c d : Char} (h : spellsOr c d) :
    ∃ c' d', FoldsTo c c' [] ∧ FoldsTo d d' [] := by
  obtain ⟨hstarts, hends⟩ := Bool.and_eq_true_iff.mp h
  obtain ⟨c', more, hc⟩ := exists_foldsTo c
  obtain ⟨d', more', hd⟩ := exists_foldsTo d
  obtain rfl := hc.alone (by simp [isPlain, startsOr, hstarts])
  obtain rfl := hd.alone (by simp [isPlain, endsOr, hends])
  exact ⟨c', d', hc, hd⟩

theorem Scans.words {depth : Nat} {cs : List Char} {w : List (Char × Role)}
    (h : ∀ c ∈ cs, isFree c) (rest : Scans .word depth w) :
    Scans .word depth (cs.map (·, .word) ++ w) := by
  induction cs with
  | nil => exact rest
  | cons c cs ih =>
    exact .word (h c (by simp)) (joinAt_of_not_admitsJoin rfl _ _) rfl
      (ih fun x hx => h x (by simp [hx]))

theorem Scans.strays {prev : Role} {depth : Nat} {cs : List Char} {w : List (Char × Role)}
    (hprev : prev.admitsLiteral = false) (h : ∀ c ∈ cs, isPlain c) (rest : Scans prev depth w) :
    Scans prev depth (cs.map (·, .ignored) ++ w) := by
  induction cs with
  | nil => exact rest
  | cons c cs ih =>
    obtain ⟨hfree, hstarts, -⟩ := isPlain_iff.mp (h c (by simp))
    exact .stray (.letter hfree (joinAt_of_not_startsOr hstarts _ _) hprev)
      (ih fun x hx => h x (by simp [hx]))

theorem bodyLength_fold_of_body {body : List Char} {w : List (Char × Role)}
    (h : bodyLength (body ++ '"' :: w.map Prod.fst) = some body.length) :
    bodyLength (body.flatMap foldChar ++ '"' :: (foldMarked w).map Prod.fst) =
      some (body.flatMap foldChar).length := by
  have hquote : foldChar '"' = ['"'] := foldChar_of_mark rfl
  have hfold := bodyLength_fold (body ++ '"' :: w.map Prod.fst)
  rw [h, Option.map_some, List.take_left, List.flatMap_append, List.flatMap_cons, hquote] at hfold
  rw [map_fst_foldMarked]
  exact hfold

theorem Stray.scans_fold {prev : Role} {depth : Nat} {c : Char} {w : List (Char × Role)}
    (h : Stray prev depth (w.map Prod.fst) c) (rest : Scans prev depth (foldMarked w)) :
    Scans prev depth (foldMarked ((c, .ignored) :: w)) := by
  cases h with
  | opening h =>
    rw [foldMarked_mark rfl]
    exact .stray (.opening h) rest
  | closing h =>
    rw [foldMarked_mark rfl]
    exact .stray (.closing h) rest
  | not h =>
    rw [foldMarked_mark rfl]
    exact .stray (.not h) rest
  | quote h =>
    rw [foldMarked_mark rfl]
    refine .stray (.quote ?_) rest
    rw [map_fst_foldMarked, bodyLength_fold, h]
    rfl
  | letter hfree hjoin h =>
    obtain ⟨first, more, hfold⟩ := exists_foldsTo c
    rw [← joinAt_fold hfold, ← map_fst_foldMarked] at hjoin
    rw [foldMarked_cons, hfold.eq]
    refine .stray (.letter ?_ ?_ h) (.strays h hfold.plain rest)
    · rw [hfold.free, hfree]
    · simpa [Function.comp_def] using hjoin

theorem Scans.fold {prev : Role} {depth : Nat} {w : List (Char × Role)} (h : Scans prev depth w) :
    Scans prev depth (foldMarked w) := by
  induction h with
  | done => exact .done
  | gap h _ ih =>
    rw [foldMarked_mark (by simp [isFree, h])]
    exact .gap h ih
  | opening h _ ih =>
    rw [foldMarked_mark rfl]
    exact .opening h ih
  | closing _ ih =>
    rw [foldMarked_mark rfl]
    exact .closing ih
  | not h _ ih =>
    rw [foldMarked_mark rfl]
    exact .not h ih
  | quoted body h hbody _ ih =>
    rw [foldMarked_mark rfl, foldMarked_run, foldMarked_mark rfl]
    exact .quoted _ h (bodyLength_fold_of_body hbody) ih
  | strayQuoted body h hbody _ ih =>
    rw [foldMarked_mark rfl, foldMarked_run, foldMarked_mark rfl]
    exact .strayQuoted _ h (bodyLength_fold_of_body hbody) ih
  | @join prev role next depth c d w hfree h _ ih =>
    obtain ⟨x, rest, htext, hspells, -⟩ := joinAt_eq_some h
    obtain ⟨rfl, -⟩ := List.cons.inj htext
    obtain ⟨c', d', hc, hd⟩ := foldsTo_of_spellsOr hspells
    rw [← joinAt_fold hc, List.flatMap_cons, hd.eq, ← map_fst_foldMarked] at h
    rw [foldMarked_cons, foldMarked_cons, hc.eq, hd.eq]
    exact .join (hc.free.trans hfree) h ih
  | @word prev depth c w hfree hjoin h _ ih =>
    obtain ⟨first, more, hfold⟩ := exists_foldsTo c
    rw [← joinAt_fold hfold, ← map_fst_foldMarked] at hjoin
    rw [foldMarked_cons, hfold.eq]
    refine .word (hfold.free.trans hfree) ?_ h (.words ?_ ih)
    · simpa [Function.comp_def] using hjoin
    · intro x hx
      exact (isPlain_iff.mp (hfold.plain x hx)).1
  | stray h _ ih => exact h.scans_fold ih

theorem map_snd_foldMarked_cons (c : Char) (role : Role) (w : List (Char × Role)) :
    (foldMarked ((c, role) :: w)).map Prod.snd =
      List.replicate (foldChar c).length role ++ (foldMarked w).map Prod.snd := by
  simp [foldMarked_cons, Function.comp_def, List.map_const']

theorem answerOpenings_fold {w : List (Char × Role)} (h : Spelled w) :
    ∃ v waiting, v.map Prod.fst = w.map Prod.fst ∧ Spelled v ∧
      answerOpenings (w.map Prod.snd) = (v.map Prod.snd, waiting) ∧
      answerOpenings ((foldMarked w).map Prod.snd) =
        ((foldMarked v).map Prod.snd, waiting) := by
  induction h with
  | nil => exact ⟨[], 0, rfl, .nil, rfl, rfl⟩
  | @or c d w h _ ih =>
    obtain ⟨v, waiting, hfst, hv, hmask, hfold⟩ := ih
    obtain ⟨c', d', hc, hd⟩ := foldsTo_of_spellsOr h
    refine ⟨(c, .or) :: (d, .or) :: v, waiting, ?_, .or h hv, ?_, ?_⟩
    · simp [hfst]
    · simp [answerOpenings, hmask]
    · simp [foldMarked_cons, hc.eq, hd.eq, answerOpenings, hfold]
  | @cons c role w h _ ih =>
    obtain ⟨v, waiting, hfst, hv, hmask, hfold⟩ := ih
    by_cases hopening : role = .opening
    · obtain rfl := hopening
      obtain rfl : c = '(' := by simpa [Role.fits] using h
      cases waiting with
      | zero =>
        refine ⟨('(', .ignored) :: v, 0, ?_, .cons rfl hv, ?_, ?_⟩
        · simp [hfst]
        · simp [answerOpenings, hmask]
        · rw [foldMarked_mark rfl, foldMarked_mark rfl]
          simp [answerOpenings, hfold]
      | succ waiting =>
        refine ⟨('(', .opening) :: v, waiting, ?_, .cons rfl hv, ?_, ?_⟩
        · simp [hfst]
        · simp [answerOpenings, hmask]
        · rw [foldMarked_mark rfl, foldMarked_mark rfl]
          simp [answerOpenings, hfold]
    by_cases hclosing : role = .closing
    · obtain rfl := hclosing
      obtain rfl : c = ')' := by simpa [Role.fits] using h
      refine ⟨(')', .closing) :: v, waiting + 1, ?_, .cons rfl hv, ?_, ?_⟩
      · simp [hfst]
      · simp [answerOpenings, hmask]
      · rw [foldMarked_mark rfl, foldMarked_mark rfl]
        simp [answerOpenings, hfold]
    · -- Any other role is passed over, on however many characters it stands.
      have hrun (n : Nat) : Grammar.Balanced (List.replicate n role) := by
        apply Grammar.Balanced.of_plain
        intro other hother
        rw [List.eq_of_mem_replicate hother]
        exact ⟨hopening, hclosing⟩
      refine ⟨(c, role) :: v, waiting, ?_, .cons h hv, ?_, ?_⟩
      · simp [hfst]
      · simpa [hmask] using hrun 1 (w.map Prod.snd)
      · rw [map_snd_foldMarked_cons, map_snd_foldMarked_cons, hrun, hfold]

theorem exists_dropDangling_run (last : Role) {role : Role} (h : role ≠ .or) :
    ∃ next, ∀ n m, dropDangling last (List.replicate (n + 1) role ++ m) =
      List.replicate (n + 1) role ++ dropDangling next m := by
  by_cases hpassed : role = .ignored ∨ role = .gap
  · refine ⟨last, ?_⟩
    intro n m
    induction n + 1 with
    | zero => rfl
    | succ n ih =>
      rcases hpassed with rfl | rfl <;> simp [List.replicate_succ, dropDangling, ih]
  · rw [not_or] at hpassed
    exact ⟨role, Grammar.keeps_replicate last role h hpassed.1 hpassed.2⟩

theorem dropDangling_fold {w : List (Char × Role)} (h : Spelled w) (last : Role) :
    ∃ v, v.map Prod.fst = w.map Prod.fst ∧ Spelled v ∧
      dropDangling last (w.map Prod.snd) = v.map Prod.snd ∧
      dropDangling last ((foldMarked w).map Prod.snd) = (foldMarked v).map Prod.snd := by
  induction h generalizing last with
  | nil => exact ⟨[], rfl, .nil, rfl, rfl⟩
  | @or c d w h _ ih =>
    obtain ⟨v, hfst, hv, hmask, hfold⟩ := ih .or
    obtain ⟨c', d', hc, hd⟩ := foldsTo_of_spellsOr h
    by_cases hlast : last.endsOperand
    · refine ⟨(c, .or) :: (d, .or) :: v, ?_, .or h hv, ?_, ?_⟩
      · simp [hfst]
      · simp [dropDangling, hlast, hmask]
      · simp [foldMarked_cons, hc.eq, hd.eq, dropDangling, hlast, hfold]
    · refine ⟨(c, .ignored) :: (d, .ignored) :: v, ?_, .cons rfl (.cons rfl hv), ?_, ?_⟩
      · simp [hfst]
      · simp [dropDangling, hlast, hmask]
      · simp [foldMarked_cons, hc.eq, hd.eq, dropDangling, hlast, hfold]
  | @cons c role w h _ ih =>
    have hor : role ≠ .or := by
      rintro rfl
      cases h
    obtain ⟨next, hrun⟩ := exists_dropDangling_run last hor
    obtain ⟨v, hfst, hv, hmask, hfold⟩ := ih next
    obtain ⟨n, hn⟩ : ∃ n, (foldChar c).length = n + 1 :=
      Nat.exists_eq_succ_of_ne_zero (by simpa using foldChar_ne_nil c)
    refine ⟨(c, role) :: v, ?_, .cons h hv, ?_, ?_⟩
    · simp [hfst]
    · simpa [hmask] using hrun 0 (w.map Prod.snd)
    · rw [map_snd_foldMarked_cons, map_snd_foldMarked_cons, hn, hrun, hfold]

theorem exists_marked (text : List Char) : ∃ w, w.map Prod.fst = text ∧ Spelled w ∧
    w.map Prod.snd = ofChars text ∧
    (foldMarked w).map Prod.snd = ofChars (text.flatMap foldChar) := by
  obtain ⟨w, rfl, hscans⟩ := exists_scans .gap 0 text
  obtain ⟨answered, waiting, hfst, hspelled, hanswer, hanswerFold⟩ :=
    answerOpenings_fold hscans.spelled
  obtain ⟨v, hfst', hspelled', hdrop, hdropFold⟩ := dropDangling_fold hspelled .opening
  refine ⟨v, hfst'.trans hfst, hspelled', ?_, ?_⟩
  · rw [ofChars, hscans.scan_eq, hanswer, hdrop]
  · rw [ofChars, ← map_fst_foldMarked, hscans.fold.scan_eq, hanswerFold, hdropFold]

end SocketWatch.Mask
