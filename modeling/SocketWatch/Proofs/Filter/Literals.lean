import SocketWatch.Filter.Live

namespace SocketWatch

mutual

def Operand.mapTexts (g : String → String) : Operand → Operand
  | .literal negated text => .literal negated (g text)
  | .group negated inner => .group negated (inner.mapTexts g)

def Filter.mapTexts (g : String → String) : Filter → Filter
  | .empty => .empty
  | .chain first rest => .chain (first.mapTexts g) (rest.mapTexts g)

def Joined.mapTexts (g : String → String) : Joined → Joined
  | .done => .done
  | .next join operand rest => .next join (operand.mapTexts g) (rest.mapTexts g)

end

mutual

def Operand.All (p : String → Prop) : Operand → Prop
  | .literal _ text => p text
  | .group _ inner => inner.All p

def Filter.All (p : String → Prop) : Filter → Prop
  | .empty => True
  | .chain first rest => first.All p ∧ rest.All p

def Joined.All (p : String → Prop) : Joined → Prop
  | .done => True
  | .next _ operand rest => operand.All p ∧ rest.All p

end

mutual

theorem Operand.all_mapTexts {p : String → Prop} {g : String → String} :
    ∀ {operand : Operand}, (operand.mapTexts g).All p ↔ operand.All fun text => p (g text)
  | .literal _ _ => Iff.rfl
  | .group _ inner => Filter.all_mapTexts (f := inner)

theorem Filter.all_mapTexts {p : String → Prop} {g : String → String} :
    ∀ {f : Filter}, (f.mapTexts g).All p ↔ f.All fun text => p (g text)
  | .empty => Iff.rfl
  | .chain _ _ => and_congr Operand.all_mapTexts Joined.all_mapTexts

theorem Joined.all_mapTexts {p : String → Prop} {g : String → String} :
    ∀ {joined : Joined}, (joined.mapTexts g).All p ↔ joined.All fun text => p (g text)
  | .done => Iff.rfl
  | .next _ _ _ => and_congr Operand.all_mapTexts Joined.all_mapTexts

end

section

variable (occurs : String → Bool) (g : String → String)

mutual

theorem Operand.holds_mapTexts : ∀ operand : Operand,
    (operand.mapTexts g).holds occurs = operand.holds fun text => occurs (g text)
  | .literal _ _ => rfl
  | .group _ inner => by
    rw [Operand.mapTexts, Operand.holds, Operand.holds, Filter.holds_mapTexts inner]

theorem Filter.holds_mapTexts : ∀ f : Filter,
    (f.mapTexts g).holds occurs = f.holds fun text => occurs (g text)
  | .empty => rfl
  | .chain first rest => by
    rw [Filter.mapTexts, Filter.holds, Filter.holds, Operand.holds_mapTexts first,
      Joined.holds_mapTexts rest]

theorem Joined.holds_mapTexts : ∀ (joined : Joined) (verdict : Bool),
    (joined.mapTexts g).holds occurs verdict = joined.holds (fun text => occurs (g text)) verdict
  | .done, _ => rfl
  | .next join operand rest, verdict => by
    rw [Joined.mapTexts, Joined.holds, Joined.holds, Operand.holds_mapTexts operand,
      Joined.holds_mapTexts rest, Joined.holds_mapTexts rest]

end

end

theorem bind_eq_ok_iff {ε α β : Type} {x : Except ε α} {f : α → Except ε β} {b : β} :
    x >>= f = .ok b ↔ ∃ a, x = .ok a ∧ f a = .ok b := by
  cases x with
  | error e => simp [bind, Except.bind]
  | ok a => simp [bind, Except.bind]

def Text.Foldable (text : String) : Prop :=
  (Text.caseFold text).utf8ByteSize ≤ Filter.maxBytes

theorem Text.foldable_iff {text : String} : Foldable text ↔
    (String.ofList (text.toList.flatMap foldChar)).utf8ByteSize ≤ Filter.maxBytes := by
  rw [Foldable, ← caseFold_ofList, String.ofList_toList]

mutual

theorem Operand.caseFolded_eq : ∀ {operand : Operand}, operand.All Text.Foldable →
    operand.caseFolded = .ok (operand.mapTexts Text.caseFold)
  | .literal negated text, h => by
    have hsize : Filter.checkSize (Text.caseFold text) = .ok () := Filter.checkSize_of_le h
    rw [Operand.caseFolded, hsize]
    rfl
  | .group negated inner, h => by
    rw [Operand.caseFolded, Filter.caseFolded_eq h]
    rfl

theorem Filter.caseFolded_eq : ∀ {f : Filter}, f.All Text.Foldable →
    f.caseFolded = .ok (f.mapTexts Text.caseFold)
  | .empty, _ => rfl
  | .chain first rest, h => by
    rw [Filter.caseFolded, Operand.caseFolded_eq h.1, Joined.caseFolded_eq h.2]
    rfl

theorem Joined.caseFolded_eq : ∀ {joined : Joined}, joined.All Text.Foldable →
    joined.caseFolded = .ok (joined.mapTexts Text.caseFold)
  | .done, _ => rfl
  | .next join operand rest, h => by
    rw [Joined.caseFolded, Operand.caseFolded_eq h.1, Joined.caseFolded_eq h.2]
    rfl

end

mutual

theorem Operand.all_foldable : ∀ {operand folded : Operand}, operand.caseFolded = .ok folded →
    operand.All Text.Foldable
  | .literal negated text, _, h => by
    obtain ⟨_, hsize, -⟩ := bind_eq_ok_iff.mp h
    by_cases hle : (Text.caseFold text).utf8ByteSize ≤ Filter.maxBytes
    · exact hle
    · rw [Filter.checkSize, if_neg hle] at hsize
      cases hsize
  | .group negated inner, _, h => by
    obtain ⟨_, hinner, -⟩ := bind_eq_ok_iff.mp h
    exact Filter.all_foldable hinner

theorem Filter.all_foldable : ∀ {f folded : Filter}, f.caseFolded = .ok folded →
    f.All Text.Foldable
  | .empty, _, _ => trivial
  | .chain first rest, _, h => by
    obtain ⟨_, hfirst, h⟩ := bind_eq_ok_iff.mp h
    obtain ⟨_, hrest, -⟩ := bind_eq_ok_iff.mp h
    exact ⟨Operand.all_foldable hfirst, Joined.all_foldable hrest⟩

theorem Joined.all_foldable : ∀ {joined folded : Joined}, joined.caseFolded = .ok folded →
    joined.All Text.Foldable
  | .done, _, _ => trivial
  | .next join operand rest, _, h => by
    obtain ⟨_, hoperand, h⟩ := bind_eq_ok_iff.mp h
    obtain ⟨_, hrest, -⟩ := bind_eq_ok_iff.mp h
    exact ⟨Operand.all_foldable hoperand, Joined.all_foldable hrest⟩

end

theorem Filter.caseFolded_eq_ok_iff {f folded : Filter} :
    f.caseFolded = .ok folded ↔ f.All Text.Foldable ∧ folded = f.mapTexts Text.caseFold := by
  constructor
  · intro h
    have hall := all_foldable h
    rw [caseFolded_eq hall] at h
    exact ⟨hall, (Except.ok.inj h).symm⟩
  · rintro ⟨hall, rfl⟩
    exact caseFolded_eq hall

section

variable (g : String → String) (p : String → Prop)

theorem Joined.mapTexts_ofList (operands : List (Join × Operand)) :
    (Joined.ofList operands).mapTexts g =
      .ofList (operands.map fun o => (o.1, o.2.mapTexts g)) := by
  induction operands with
  | nil => rfl
  | cons o operands ih => rw [Joined.ofList, Joined.mapTexts, ih, List.map_cons, Joined.ofList]

theorem Filter.mapTexts_ofList (operands : List (Join × Operand)) :
    (Filter.ofList operands).mapTexts g =
      .ofList (operands.map fun o => (o.1, o.2.mapTexts g)) := by
  cases operands with
  | nil => rfl
  | cons o operands =>
    rw [Filter.ofList, Filter.mapTexts, Joined.mapTexts_ofList, List.map_cons, Filter.ofList]

variable {p}

theorem Joined.all_ofList {operands : List (Join × Operand)} :
    (Joined.ofList operands).All p ↔ ∀ o ∈ operands, o.2.All p := by
  induction operands with
  | nil => simp [Joined.ofList, Joined.All]
  | cons o operands ih => simp [Joined.ofList, Joined.All, ih]

theorem Filter.all_ofList {operands : List (Join × Operand)} :
    (Filter.ofList operands).All p ↔ ∀ o ∈ operands, o.2.All p := by
  cases operands with
  | nil => simp [Filter.ofList, Filter.All]
  | cons o operands => simp [Filter.ofList, Filter.All, Joined.all_ofList]

def Level.mapTexts (level : Level) : Level :=
  { level with operands := level.operands.map fun o => (o.1, o.2.mapTexts g) }

theorem Level.push_mapTexts (level : Level) (operand : Operand) :
    (level.mapTexts g).push (operand.mapTexts g) = (level.push operand).mapTexts g := by
  simp [Level.push, Level.mapTexts]

theorem Level.filter_mapTexts (level : Level) :
    (level.mapTexts g).filter = level.filter.mapTexts g := by
  simp [Level.filter, Level.mapTexts, Filter.mapTexts_ofList]

theorem Level.close_mapTexts (level inner : Level) :
    (level.mapTexts g).close (inner.mapTexts g) = (level.close inner).mapTexts g := by
  rw [Level.close, Level.filter_mapTexts, Level.close, ← Level.push_mapTexts]
  rfl

def Reading.mapTexts (reading : Reading) : Reading where
  current := reading.current.mapTexts g
  around := reading.around.map (Level.mapTexts g)

theorem Reading.filter_mapTexts (reading : Reading) :
    (reading.mapTexts g).filter = reading.filter.mapTexts g := by
  obtain ⟨current, around⟩ := reading
  rw [Reading.filter, Reading.filter, ← Level.filter_mapTexts]
  congr 1
  induction around generalizing current with
  | nil => rfl
  | cons level around ih =>
    have hclose := ih (level.close current)
    rw [Reading.mapTexts, List.map_cons, List.foldl_cons, Level.close_mapTexts]
    exact hclose

end

def Token.mapWritten (h : List Char → List Char) : Token → Token
  | .literal written => .literal (h written)
  | token => token

section

variable {g : String → String} {h : List Char → List Char}
  (hg : ∀ written, String.ofList (Token.undouble (h written)) =
    g (String.ofList (Token.undouble written)))

include hg

theorem Reading.step_mapTexts (reading : Reading) (token : Token) :
    (reading.mapTexts g).step (token.mapWritten h) = (reading.step token).mapTexts g := by
  cases token with
  | gap => rfl
  | or => rfl
  | not => rfl
  | opening => rfl
  | literal written =>
    simp only [Token.mapWritten, Reading.step, hg]
    rfl
  | closing =>
    obtain ⟨current, around⟩ := reading
    cases around with
    | nil => rfl
    | cons level around =>
      simp [Token.mapWritten, Reading.step, Reading.mapTexts, Level.close_mapTexts]

theorem Filter.ofTokens_mapWritten (tokens : List Token) :
    ofTokens (tokens.map (Token.mapWritten h)) = (ofTokens tokens).mapTexts g := by
  have hsteps : ∀ reading : Reading,
      (tokens.map (Token.mapWritten h)).foldl Reading.step (reading.mapTexts g) =
        (tokens.foldl Reading.step reading).mapTexts g := by
    induction tokens with
    | nil => exact fun reading => rfl
    | cons token tokens ih =>
      intro reading
      rw [List.map_cons, List.foldl_cons, Reading.step_mapTexts hg, ih, List.foldl_cons]
  rw [ofTokens, ofTokens, ← Reading.filter_mapTexts, ← hsteps]
  rfl

end

section

variable {p : String → Prop}

def Level.All (p : String → Prop) (level : Level) : Prop := ∀ o ∈ level.operands, o.2.All p

theorem Level.all_push {level : Level} (h : level.All p) {operand : Operand}
    (hoperand : operand.All p) : (level.push operand).All p := by
  intro o ho
  rcases List.mem_cons.mp ho with rfl | ho
  · exact hoperand
  · exact h o ho

theorem Level.all_filter {level : Level} (h : level.All p) : level.filter.All p := by
  rw [Level.filter, Filter.all_ofList]
  intro o ho
  exact h o (List.mem_reverse.mp ho)

theorem Level.all_close {level inner : Level} (h : level.All p) (hinner : inner.All p) :
    (level.close inner).All p := Level.all_push h (Level.all_filter hinner)

def Reading.All (p : String → Prop) (reading : Reading) : Prop :=
  reading.current.All p ∧ ∀ level ∈ reading.around, level.All p

theorem Reading.all_filter {reading : Reading} (h : reading.All p) : reading.filter.All p := by
  obtain ⟨current, around⟩ := reading
  obtain ⟨hcurrent, haround⟩ := h
  apply Level.all_filter
  induction around generalizing current with
  | nil => exact hcurrent
  | cons level around ih =>
    apply ih
    · exact Level.all_close (haround level (by simp)) hcurrent
    · intro other hother
      exact haround other (by simp [hother])

theorem Reading.all_step {reading : Reading} (h : reading.All p) {token : Token}
    (htoken : ∀ written, token = .literal written → p (String.ofList (Token.undouble written))) :
    (reading.step token).All p := by
  obtain ⟨hcurrent, haround⟩ := h
  cases token with
  | gap => exact ⟨hcurrent, haround⟩
  | or => exact ⟨hcurrent, haround⟩
  | not => exact ⟨hcurrent, haround⟩
  | opening =>
    refine ⟨by simp [Reading.step, Level.All], ?_⟩
    rintro level (_ | ⟨_, hlevel⟩)
    · exact hcurrent
    · exact haround level hlevel
  | literal written => exact ⟨Level.all_push hcurrent (htoken written rfl), haround⟩
  | closing =>
    obtain ⟨current, around⟩ := reading
    cases around with
    | nil => exact ⟨hcurrent, haround⟩
    | cons level around =>
      exact ⟨Level.all_close (haround level (by simp)) hcurrent,
        fun other hother => haround other (List.mem_cons_of_mem _ hother)⟩

theorem Filter.all_ofTokens {tokens : List Token}
    (h : ∀ written, .literal written ∈ tokens → p (String.ofList (Token.undouble written))) :
    (ofTokens tokens).All p := by
  have hsteps : ∀ reading : Reading, reading.All p → (tokens.foldl Reading.step reading).All p := by
    induction tokens with
    | nil => exact fun reading hreading => hreading
    | cons token tokens ih =>
      intro reading hreading
      apply ih (fun written hmem => h written (by simp [hmem]))
      apply Reading.all_step hreading
      rintro written rfl
      exact h written (by simp)
  apply Reading.all_filter
  apply hsteps
  simp [Reading.All, Level.All]

end

end SocketWatch
