import SocketWatch.Text.Width.Opening

/-!
How many columns of a terminal a line of text takes. What a character adds hangs on the characters
behind it, so a measured text keeps, beside its columns, what it begins with.
-/

namespace SocketWatch.Text

inductive Selector
  | wide
  | text
  | picture

def Selector.ofChar? (c : Char) : Option Selector :=
  if c = '\uFE01' then some .wide
  else if c = '\uFE0E' then some .text
  else if c = '\uFE0F' then some .picture
  else none

def isQuotationMark (c : Char) : Bool :=
  c = '\u2018' || c = '\u2019' || c = '\u201C' || c = '\u201D'

structure Measured where
  columns : Nat := 0
  opening : Opening := .plain
  selector : Option Selector := none

namespace Measured

def extend (text : Measured) (step : Int) (opening : Opening) : Measured :=
  ⟨(text.columns + step).toNat, opening, none⟩

def select? (c : Char) (text : Measured) : Option Measured :=
  match text.selector with
  | some .picture =>
    if hasTwoLooks c then
      some (text.extend (if text.opening.joinsPicture then 0 else 2) .picture)
    else none
  | some .text => if shrinksToText c then some (text.extend 1 .plain) else none
  | some .wide => if isQuotationMark c then some (text.extend 2 .plain) else none
  | none => none

def unselected (text : Measured) : Measured :=
  match text.selector with
  | some _ => ⟨text.columns, if text.opening.endsLigature then text.opening else .plain, none⟩
  | none => text

def withSelector (selector : Selector) (text : Measured) : Measured :=
  let kept := text.opening.endsLigature || selector matches .picture && text.opening.joinsPicture
  ⟨text.columns, if kept then text.opening else .plain, some selector⟩

def consUnselected (c : Char) (text : Measured) : Measured :=
  if c.toNat ≤ 0xA0 then text.extend 1 .plain
  else match Selector.ofChar? c with
    | some selector => text.withSelector selector
    | none =>
      let (step, opening) := (text.opening.grow? c).getD (charWidth c, .ofChar c)
      text.extend step opening

def cons (c : Char) (text : Measured) : Measured :=
  (text.select? c).getD (text.unselected.consUnselected c)

end Measured

def measure (text : List Char) : Measured := text.foldr Measured.cons {}

def width (text : List Char) : Nat := (measure text).columns

theorem measure_cons (c : Char) (text : List Char) :
    measure (c :: text) = (measure text).cons c := rfl

theorem measure_of_le {text : List Char} (h : ∀ c ∈ text, c.toNat ≤ 0xA0) :
    measure text = ⟨text.length, .plain, none⟩ := by
  induction text with
  | nil => rfl
  | cons c text ih =>
    have hc := h c (by simp)
    rw [measure_cons, ih fun c hc => h c (by simp [hc])]
    simp [Measured.cons, Measured.select?, Measured.unselected, Measured.consUnselected, hc,
      Measured.extend]

theorem width_of_le {text : List Char} (h : ∀ c ∈ text, c.toNat ≤ 0xA0) :
    width text = text.length := by
  rw [width, measure_of_le h]

end SocketWatch.Text
