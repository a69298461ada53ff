/-! Cutting lists at separators. -/

namespace RestRoutes.Text

/-- The pieces of a list between the elements that satisfy `p`. There is always one piece more than
there are separators. -/
def splitAll {α : Type} (p : α → Bool) : List α → List (List α)
  | [] => [[]]
  | x :: rest =>
    if p x then [] :: splitAll p rest
    else
      match splitAll p rest with
      | [] => [[x]]
      | piece :: pieces => (x :: piece) :: pieces

/-- The part before the first element that satisfies `p`, and the part after it. -/
def cutFirst {α : Type} (p : α → Bool) : List α → Option (List α × List α)
  | [] => none
  | x :: rest =>
    if p x then some ([], rest) else (cutFirst p rest).map fun (a, b) => (x :: a, b)

/-- The part before the last element that satisfies `p`, and the part after it. -/
def cutLast {α : Type} (p : α → Bool) : List α → Option (List α × List α)
  | [] => none
  | x :: rest =>
    match cutLast p rest with
    | some (a, b) => some (x :: a, b)
    | none => if p x then some ([], rest) else none

def hasPart {α : Type} [BEq α] (part : List α) : List α → Bool
  | [] => part.isEmpty
  | x :: rest => part.isPrefixOf (x :: rest) || hasPart part rest

/-- The pieces of a list between the places where `mark` stands in it, read from left to right.
`skip` elements belong to a mark that was found. -/
def piecesBetween {α : Type} [BEq α] (mark : List α) : (skip : Nat) → List α → List (List α)
  | _, [] => [[]]
  | skip + 1, _ :: rest => piecesBetween mark skip rest
  | 0, x :: rest =>
    if mark.isPrefixOf (x :: rest) then [] :: piecesBetween mark (mark.length - 1) rest
    else
      match piecesBetween mark 0 rest with
      | [] => [[x]]
      | piece :: pieces => (x :: piece) :: pieces

/-- The list with one mark in the place of each longest run of elements that satisfy `p`. `inside` holds
after such an element. -/
def markRuns {α : Type} (p : α → Bool) (mark : α) : (inside : Bool) → List α → List α
  | _, [] => []
  | inside, x :: rest =>
    if p x then
      if inside then markRuns p mark true rest else mark :: markRuns p mark true rest
    else x :: markRuns p mark false rest

def startsWith (front text : String) : Bool := front.toList.isPrefixOf text.toList

def endsWith (tail text : String) : Bool := tail.toList.isSuffixOf text.toList

def mentions (part text : String) : Bool := hasPart part.toList text.toList

/-- The longest front whose elements satisfy `p`, and the rest. -/
def spanWhile {α : Type} (p : α → Bool) (xs : List α) : List α × List α :=
  (xs.takeWhile p, xs.dropWhile p)

end RestRoutes.Text
