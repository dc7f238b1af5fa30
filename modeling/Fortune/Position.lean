import Fortune.Decimal.Layout
import Fortune.Decimal.Reader
import Fortune.Text.Blank

/-!
Points, blocks and distances. Vectors are generic in their number type, so that the distance that
is computed in floats can also be read in exact fractions.
-/
namespace Fortune
open Decimal

structure Vec3 (α : Type) where
  x : α
  y : α
  z : α
deriving Repr, BEq, DecidableEq

namespace Vec3

variable {α : Type}

def squaredDistance [Add α] [Sub α] [Mul α] (a b : Vec3 α) : α :=
  let dx := a.x - b.x
  let dy := a.y - b.y
  let dz := a.z - b.z
  dx * dx + dy * dy + dz * dz

def scale [Mul α] (v : Vec3 α) (factor : α) : Vec3 α :=
  ⟨v.x * factor, v.y * factor, v.z * factor⟩

def All (p : α → Prop) (v : Vec3 α) : Prop := p v.x ∧ p v.y ∧ p v.z

end Vec3

abbrev Point := Vec3 Float

namespace Point

def distance (a b : Point) : Float := (a.squaredDistance b).sqrt

def joined (x y z : List Char) : List Char := x ++ ',' :: y ++ ',' :: z

def text (p : Point) : String :=
  String.ofList (joined (floatText p.x) (floatText p.y) (floatText p.z))

structure Error where
  input : String
deriving DecidableEq, Repr

def Error.message (e : Error) : String :=
  "invalid vector \"" ++ e.input ++ "\": expected three comma-separated numbers"

/-- Reads three finite numbers between two commas, with blanks around each. -/
def parse (text : String) : Except Error Point :=
  match (text.toList.splitOn ',').map Text.trim with
  | [x, y, z] =>
    match finite? x, finite? y, finite? z with
    | some x, some y, some z => .ok ⟨x, y, z⟩
    | _, _, _ => .error ⟨text⟩
  | _ => .error ⟨text⟩

end Point

/-- A block by its integer corner. Coordinates have 32 bits. -/
structure Block where
  x : Int
  y : Int
  z : Int
deriving DecidableEq, Repr

namespace Block

def center (b : Block) : Point :=
  ⟨Float.ofInt b.x + 0.5, Float.ofInt b.y + 0.5, Float.ofInt b.z + 0.5⟩

/-- The nearest 32-bit integer below a coordinate; what is not a number counts as zero. -/
def cell (x : Float) : Int := (Binary64.ofFloat x).floor least32 greatest32

def containing (p : Point) : Block := ⟨cell p.x, cell p.y, cell p.z⟩

def text (b : Block) : String :=
  String.ofList (Point.joined (intText b.x) (intText b.y) (intText b.z))

end Block
end Fortune
