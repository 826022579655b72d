import SocketWatch.Text.Basic

namespace SocketWatch.Text

variable {p : Char → Bool}

theorem exists_of_mem_splitOnP {text piece : List Char} (h : piece ∈ text.splitOnP p) :
    (∀ c ∈ piece, p c = false) ∧ ∃ before after, text = before ++ (piece ++ after) ∧
      (∀ c ∈ before.getLast?, p c) ∧ ∀ c ∈ after.head?, p c := by
  induction hn : text.length using Nat.strongRecOn generalizing text with
  | ind n ih =>
    by_cases hmark : ∃ c ∈ text, p c
    · obtain ⟨c, hc, hp⟩ := hmark
      obtain ⟨left, right, rfl⟩ := List.append_of_mem hc
      rw [List.length_append, List.length_cons] at hn
      rw [List.splitOnP_append_cons left right hp] at h
      rcases List.mem_append.mp h with h | h
      · obtain ⟨hpiece, before, after, rfl, hbefore, hafter⟩ := ih _ (by omega) h rfl
        refine ⟨hpiece, before, after ++ c :: right, by simp, hbefore, ?_⟩
        cases after with
        | nil => simpa using hp
        | cons d after => exact hafter
      · obtain ⟨hpiece, before, after, rfl, hbefore, hafter⟩ := ih _ (by omega) h rfl
        refine ⟨hpiece, left ++ c :: before, after, by simp, ?_, hafter⟩
        cases before with
        | nil => simpa using hp
        | cons d before => simpa [List.getLast?_append] using hbefore
    · have hplain : ∀ c ∈ text, p c = false := by simpa using hmark
      rw [List.splitOnP_eq_singleton hplain, List.mem_singleton] at h
      subst h
      exact ⟨hplain, [], [], by simp, by simp, by simp⟩

theorem mem_splitOnP_of_bounded {before piece after : List Char}
    (hpiece : ∀ c ∈ piece, p c = false) (hbefore : ∀ c ∈ before.getLast?, p c)
    (hafter : ∀ c ∈ after.head?, p c) : piece ∈ (before ++ (piece ++ after)).splitOnP p := by
  have hsingle := List.splitOnP_eq_singleton hpiece
  have hright : piece ∈ (piece ++ after).splitOnP p := by
    cases after with
    | nil => simp [hsingle]
    | cons c after => simp [List.splitOnP_append_cons piece after (hafter c rfl), hsingle]
  rcases List.eq_nil_or_concat before with rfl | ⟨left, c, rfl⟩
  · exact hright
  · have hc : p c := hbefore c (by simp)
    rw [List.concat_eq_append, List.append_assoc, List.singleton_append,
      List.splitOnP_append_cons left _ hc]
    exact List.mem_append_right _ hright

theorem mem_splitOnP_iff {text piece : List Char} :
    piece ∈ text.splitOnP p ↔ (∀ c ∈ piece, p c = false) ∧
      ∃ before after, text = before ++ (piece ++ after) ∧
        (∀ c ∈ before.getLast?, p c) ∧ ∀ c ∈ after.head?, p c := by
  constructor
  · exact exists_of_mem_splitOnP
  · rintro ⟨hpiece, before, after, rfl, hbefore, hafter⟩
    exact mem_splitOnP_of_bounded hpiece hbefore hafter

theorem infix_iff_mem_splitOn {mark : Char} {text piece : List Char} (hne : piece ≠ [])
    (hpiece : mark ∉ piece) (hhead : text.head? = some mark) (hlast : text.getLast? = some mark) :
    mark :: (piece ++ [mark]) <:+: text ↔ piece ∈ text.splitOn mark := by
  have hplain : ∀ c ∈ piece, (c == mark) = false := by
    intro c hc
    rw [beq_eq_false_iff_ne]
    rintro rfl
    exact hpiece hc
  rw [List.splitOn_eq_splitOnP, mem_splitOnP_iff]
  constructor
  · rintro ⟨before, after, rfl⟩
    exact ⟨hplain, before ++ [mark], mark :: after, by simp, by simp, by simp⟩
  · rintro ⟨-, before, after, rfl, hbefore, hafter⟩
    have hleft : ∃ left, before = left ++ [mark] := by
      rcases List.eq_nil_or_concat before with rfl | ⟨left, c, rfl⟩
      · obtain ⟨c, more, rfl⟩ := List.exists_cons_of_ne_nil hne
        simp only [List.nil_append, List.cons_append, List.head?_cons, Option.some.injEq] at hhead
        exact absurd (by simp [hhead]) hpiece
      · have hc : c = mark := by simpa using hbefore c (by simp)
        exact ⟨left, by rw [List.concat_eq_append, hc]⟩
    have hright : ∃ right, after = mark :: right := by
      cases after with
      | nil =>
        obtain ⟨more, c, rfl⟩ := (List.eq_nil_or_concat piece).resolve_left hne
        simp only [List.concat_eq_append, List.append_nil, ← List.append_assoc,
          List.getLast?_concat, Option.some.injEq] at hlast
        exact absurd (by simp [hlast]) hpiece
      | cons c right =>
        have hc : c = mark := by simpa using hafter c (by simp)
        exact ⟨right, by rw [hc]⟩
    obtain ⟨left, rfl⟩ := hleft
    obtain ⟨right, rfl⟩ := hright
    exact ⟨left, right, by simp⟩

def runs (p : Char → Bool) (text : List Char) : List (List Char) :=
  (text.splitOnP p).filter fun piece => !piece.isEmpty

theorem runs_append_cons (left right : List Char) {c : Char} (hc : p c) :
    runs p (left ++ c :: right) = runs p left ++ runs p right := by
  rw [runs, List.splitOnP_append_cons left right hc, List.filter_append, runs, runs]

theorem runs_of_gap {gap : List Char} (h : ∀ c ∈ gap, p c) (text : List Char) :
    runs p (gap ++ text) = runs p text := by
  induction gap with
  | nil => rfl
  | cons c gap ih =>
    have hcut := runs_append_cons [] (gap ++ text) (h c (by simp))
    rw [List.nil_append] at hcut
    rw [List.cons_append, hcut, ih fun x hx => h x (by simp [hx])]
    rfl

theorem runs_of_run {run : List Char} (hne : run ≠ []) (hrun : ∀ c ∈ run, p c = false)
    {text : List Char} (htext : ∀ c ∈ text.head?, p c) :
    runs p (run ++ text) = run :: runs p text := by
  have halone : runs p run = [run] := by
    simp [runs, List.splitOnP_eq_singleton hrun, hne]
  cases text with
  | nil => simpa [runs] using halone
  | cons c text =>
    have hc : p c := htext c rfl
    have hgap := runs_append_cons [] text hc
    rw [runs_append_cons run text hc, halone, List.singleton_append]
    simpa [runs] using hgap.symm

inductive Runs (p : Char → Bool) : List (List Char) → List Char → Prop where
  | done {gap : List Char} (hgap : ∀ c ∈ gap, p c) : Runs p [] gap
  | run {gap run text : List Char} {more : List (List Char)} (hgap : ∀ c ∈ gap, p c)
    (hne : run ≠ []) (hrun : ∀ c ∈ run, p c = false) (htext : ∀ c ∈ text.head?, p c)
    (h : Runs p more text) : Runs p (run :: more) (gap ++ (run ++ text))

theorem Runs.eq {found : List (List Char)} {text : List Char} (h : Runs p found text) :
    runs p text = found := by
  induction h with
  | @done gap hgap => simpa [runs] using runs_of_gap hgap []
  | run hgap hne hrun htext _ ih => rw [runs_of_gap hgap, runs_of_run hne hrun htext, ih]

theorem Runs.gap_cons {found : List (List Char)} {text : List Char} (h : Runs p found text)
    {c : Char} (hc : p c) : Runs p found (c :: text) := by
  cases h with
  | done hgap => exact .done (by simpa using ⟨hc, hgap⟩)
  | @run gap _ _ _ hgap hne hrun htext h =>
    have hgap : ∀ x ∈ c :: gap, p x := by simpa using ⟨hc, hgap⟩
    have hlonger := Runs.run hgap hne hrun htext h
    exact hlonger

theorem Runs.exists_cons {found : List (List Char)} {text : List Char} (h : Runs p found text)
    {c : Char} (hc : p c = false) : ∃ found', Runs p found' (c :: text) := by
  have hnone : ∀ x ∈ ([] : List Char), p x := by simp
  have halone : ∀ x ∈ [c], p x = false := by simpa using hc
  cases h with
  | done hgap =>
    refine ⟨_, .run hnone (by simp) halone ?_ (.done hgap)⟩
    exact fun x hx => hgap x (List.mem_of_mem_head? hx)
  | @run gap run text _ hgap hne hrun htext h =>
    cases gap with
    | nil =>
      have hrun : ∀ x ∈ c :: run, p x = false := by simpa using ⟨hc, hrun⟩
      have hlonger := Runs.run hnone (by simp) hrun htext h
      exact ⟨_, hlonger⟩
    | cons d gap =>
      refine ⟨_, .run hnone (by simp) halone ?_ (.run hgap hne hrun htext h)⟩
      simpa using hgap d (by simp)

theorem runs_eq_iff {found : List (List Char)} {text : List Char} :
    runs p text = found ↔ Runs p found text := by
  have hexists : ∃ found, Runs p found text := by
    induction text with
    | nil => exact ⟨[], .done (by simp)⟩
    | cons c text ih =>
      obtain ⟨found, h⟩ := ih
      cases hc : p c with
      | true => exact ⟨found, h.gap_cons hc⟩
      | false => exact h.exists_cons hc
  constructor
  · rintro rfl
    obtain ⟨found, h⟩ := hexists
    rwa [h.eq]
  · exact Runs.eq

end SocketWatch.Text
