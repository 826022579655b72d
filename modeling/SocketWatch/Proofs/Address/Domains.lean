import SocketWatch.Proofs.Address.Order
import SocketWatch.Proofs.Text.Runs

namespace SocketWatch.Host

section Lexicographic

variable {α : Type} [Ord α] {l m x : List α}

theorem isLE_of_prefix [Std.ReflOrd α] (h : l <+: m) : (Ord.compare l m).isLE := by
  induction l generalizing m with
  | nil => exact List.isLE_compare_nil_left
  | cons a l ih =>
    obtain ⟨more, rfl⟩ := h
    rw [List.cons_append, List.compare_cons_cons, Std.ReflOrd.compare_self]
    exact ih (List.prefix_append l more)

theorem prefix_of_between [Std.OrientedOrd α] [Std.LawfulEqOrd α] (h : l <+: m)
    (hlx : (Ord.compare l x).isLE) (hxm : (Ord.compare x m).isLE) : l <+: x := by
  induction l generalizing m x with
  | nil => exact List.nil_prefix
  | cons a l ih =>
    obtain ⟨more, rfl⟩ := h
    cases x with
    | nil => cases hlx
    | cons b x =>
      rw [List.compare_cons_cons] at hlx
      rw [List.cons_append, List.compare_cons_cons, Std.OrientedOrd.eq_swap (a := b)] at hxm
      cases hab : Ord.compare a b with
      | lt => simp [hab] at hxm
      | gt => simp [hab] at hlx
      | eq =>
        obtain rfl := Std.LawfulEqCmp.eq_of_compare hab
        simp only [hab, Ordering.swap_eq, Ordering.eq_then] at hlx hxm
        have hx := ih (List.prefix_append l more) hlx hxm
        exact List.cons_prefix_cons.mpr ⟨rfl, hx⟩

end Lexicographic

variable {a domain name : String}

theorem labels_injective : Function.Injective labels := by
  intro a b h
  have hsplit : a.toList.splitOn '.' = b.toList.splitOn '.' := List.reverse_injective h
  have hjoined : ['.'].intercalate (a.toList.splitOn '.') = b.toList := by
    rw [hsplit, List.intercalate_splitOn]
  apply String.toList_inj.mp
  rwa [List.intercalate_splitOn] at hjoined

instance : Std.LawfulEqCmp compare where
  eq_of_compare h := labels_injective (Std.LawfulEqOrd.eq_of_compare h)

theorem labels_append (sub domain : String) :
    labels (sub ++ "." ++ domain) = labels domain ++ labels sub := by
  have hlist : (sub ++ "." ++ domain).toList = sub.toList ++ '.' :: domain.toList := by simp
  rw [labels, hlist, List.splitOn_append_cons_self, List.reverse_append]
  rfl

theorem dot_notMem_of_mem_labels {label : List Char} (h : label ∈ labels name) : '.' ∉ label := by
  rw [labels, List.mem_reverse, List.splitOn_eq_splitOnP] at h
  intro hdot
  have hplain := (Text.mem_splitOnP_iff.mp h).1 '.' hdot
  simp at hplain

theorem exists_labels {found : List (List Char)} (hne : found ≠ [])
    (hdot : ∀ label ∈ found, '.' ∉ label) : ∃ name, labels name = found := by
  refine ⟨String.ofList (['.'].intercalate found.reverse), ?_⟩
  rw [labels, String.toList_ofList, List.splitOn_intercalate]
  · exact List.reverse_reverse found
  · simpa using hdot
  · simpa using hne

def Within (domain name : String) : Prop := name = domain ∨ ∃ sub, name = sub ++ "." ++ domain

theorem within_iff : Within domain name ↔ labels domain <+: labels name := by
  constructor
  · rintro (rfl | ⟨sub, rfl⟩)
    · exact List.prefix_refl _
    · rw [labels_append]
      exact List.prefix_append _ _
  · rintro ⟨more, hmore⟩
    by_cases hne : more = []
    · left
      rw [hne, List.append_nil] at hmore
      exact (labels_injective hmore).symm
    · right
      have hdot : ∀ label ∈ more, '.' ∉ label := by
        intro label hlabel
        have hmem : label ∈ labels name := by
          rw [← hmore]
          exact List.mem_append_right _ hlabel
        exact dot_notMem_of_mem_labels hmem
      obtain ⟨sub, rfl⟩ := exists_labels hne hdot
      refine ⟨sub, labels_injective ?_⟩
      rw [labels_append, hmore]

theorem compare_empty_left (h : a ≠ "") : compare "" a = .lt := by
  have hlabels : labels a ≠ labels "" := fun hsame => h (labels_injective hsame)
  change Ord.compare [[]] (labels a) = .lt
  cases hlist : labels a with
  | nil => simp [labels] at hlist
  | cons label more =>
    cases label with
    | cons c label => rfl
    | nil =>
      -- An empty label stands at the end of a name that goes on in front of it.
      cases more with
      | nil => exact absurd hlist hlabels
      | cons next more => rfl

def compareLabels : List (List Char) → List (List Char) → Ordering
  | [], [] => .eq
  | [], _ :: _ => .lt
  | _ :: _, [] => .gt
  | label :: l, other :: m =>
    let here :=
      if label.isEmpty || other.isEmpty then Ord.compare label.length other.length
      else Ord.compare label other
    if here = .eq then compareLabels l m else here

/-- The order as it is found by one walk over both names. Where one of them is empty their sizes
tell. -/
def compareInTurn (a b : String) : Ordering :=
  if a.isEmpty || b.isEmpty then Ord.compare a.utf8ByteSize b.utf8ByteSize
  else compareLabels (labels a) (labels b)

theorem compareLabels_eq (l m : List (List Char)) : compareLabels l m = Ord.compare l m := by
  induction l generalizing m with
  | nil => cases m <;> rfl
  | cons label l ih =>
    cases m with
    | nil => rfl
    | cons other m =>
      have hhere : (if label.isEmpty || other.isEmpty then Ord.compare label.length other.length
          else Ord.compare label other) = Ord.compare label other := by
        cases label <;> cases other <;> rfl
      rw [compareLabels, List.compare_cons_cons, hhere, ih]
      cases Ord.compare label other <;> rfl

theorem compareInTurn_empty_left (a : String) : compareInTurn "" a = compare "" a := by
  by_cases ha : a = ""
  · rw [ha]
    rfl
  · have hsize : 0 < a.utf8ByteSize := by
      apply Nat.pos_of_ne_zero
      simpa using ha
    rw [compare_empty_left ha]
    exact Nat.compare_eq_lt.mpr hsize

theorem compareInTurn_eq (a b : String) : compareInTurn a b = compare a b := by
  by_cases ha : a = ""
  · rw [ha]
    exact compareInTurn_empty_left b
  · by_cases hb : b = ""
    · have hturned : compareInTurn a "" = (compareInTurn "" a).swap := by
        rw [compareInTurn, compareInTurn, if_pos (by simp), if_pos (by simp)]
        exact Std.OrientedCmp.eq_swap
      rw [hb, hturned, compareInTurn_empty_left]
      exact Std.OrientedCmp.eq_swap.symm
    · rw [compareInTurn, if_neg (by simp [ha, hb]), compareLabels_eq]
      rfl

theorem isLE_of_within (h : Within domain name) : (compare domain name).isLE :=
  isLE_of_prefix (within_iff.mp h)

theorem within_of_between {other : String} (h : Within domain other)
    (hname : (compare domain name).isLE) (hother : (compare name other).isLE) :
    Within domain name :=
  within_iff.mpr (prefix_of_between (within_iff.mp h) hname hother)

/-- Only a name equals itself, the answer for two names turned around is the answer turned around,
and the order is transitive. The empty name comes first, and the names of a domain are all names
from its own to any of them. One walk over the labels finds the order. -/
theorem compare_keeps_domains_together :
    (∀ a b, compare a b = .eq ↔ a = b) ∧ (∀ a b, compare b a = (compare a b).swap) ∧
    (∀ a b c, compare a b = .lt → compare b c = .lt → compare a c = .lt) ∧
    (∀ a, a ≠ "" → compare "" a = .lt) ∧
    (∀ domain, Within domain domain ∧ (∀ name, Within domain name → (compare domain name).isLE) ∧
      ∀ name other, Within domain other → (compare domain name).isLE →
        (compare name other).isLE → Within domain name) ∧
    ∀ a b, compareInTurn a b = compare a b := by
  refine ⟨fun a b => Std.LawfulEqCmp.compare_eq_iff_eq, fun a b => Std.OrientedCmp.eq_swap, ?_, ?_,
    ?_, compareInTurn_eq⟩
  · intro a b c
    exact Std.TransCmp.lt_trans
  · intro a
    exact compare_empty_left
  · intro domain
    refine ⟨.inl rfl, fun name => isLE_of_within, ?_⟩
    intro name other
    exact within_of_between

theorem compare_keeps_domains_together_of_doubled_dots :
    (Within ".b" "a..b" ∧ (compare ".b" "..b").isLE ∧ (compare "..b" "a..b").isLE ∧
      Within ".b" "..b") ∧
    ("b" ≠ "" ∧ compare "" "b" = .lt) ∧
      compare "b" ".b" = .lt ∧ compare ".b" "a..b" = .lt ∧ compare "b" "a..b" = .lt := by
  obtain ⟨-, -, htrans, hempty, hdomain, -⟩ := compare_keeps_domains_together
  have hother : Within ".b" "a..b" := .inr ⟨"a", rfl⟩
  have hname : (compare ".b" "..b").isLE := by decide
  have hbetween : (compare "..b" "a..b").isLE := by decide
  have hfirst : compare "b" ".b" = .lt := by decide
  have hsecond : compare ".b" "a..b" = .lt := by decide
  exact ⟨⟨hother, hname, hbetween, (hdomain ".b").2.2 _ _ hother hname hbetween⟩,
    ⟨by decide, hempty "b" (by decide)⟩, hfirst, hsecond, htrans _ _ _ hfirst hsecond⟩

end SocketWatch.Host
