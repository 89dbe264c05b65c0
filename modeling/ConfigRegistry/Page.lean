/-!
Pages of a listing. Page numbers and sizes are words of 32 bits; a requested page is brought into
range rather than refused.
-/
namespace ConfigRegistry

namespace Page

def defaultSize : Nat := 20
def maxSize : Nat := 100

/-- A requested page. -/
structure Options where
  number : UInt32
  size : UInt32
deriving DecidableEq, Repr

namespace Options

def default : Options := ⟨1, UInt32.ofNat defaultSize⟩

/-- The request brought into range: pages are counted from one and hold one to 100 items. -/
def clamp (number size : Option UInt32) : Options :=
  ⟨max (number.getD 1) 1, min (max (size.getD (UInt32.ofNat defaultSize)) 1) (UInt32.ofNat maxSize)⟩

def limit (o : Options) : Int := o.size.toNat

/-- How many items stand before the page, as a number of 64 bits with a sign. -/
def offset (o : Options) : Int := (((o.number.toNat : Int) - 1) * o.size.toNat).bmod UInt64.size

end Options

/-- Where a page stands among all pages. -/
structure Position where
  current : UInt32
  previous : Option UInt32
  next : Option UInt32
  pages : UInt32
  items : UInt64
deriving DecidableEq, Repr

/-- The place of a requested page in a listing; a listing without items has one page. -/
def Position.of (o : Options) (items : UInt64) : Position :=
  let size := max o.size.toNat 1
  let pages := UInt32.ofNat (max ((items.toNat + size - 1) / size) 1)
  { current := o.number
    previous := if 1 < o.number then some (o.number - 1) else none
    next := if o.number < pages then some (o.number + 1) else none
    pages
    items }

end Page

structure Page (α : Type) where
  items : List α
  position : Page.Position

namespace Page

/-- The page of an ordered listing; a negative offset lies behind all items. -/
def ofItems {α : Type} (all : List α) (o : Options) : Page α :=
  let skipped := if o.offset < 0 then all.length else o.offset.toNat
  ⟨(all.drop skipped).take o.size.toNat, Position.of o (UInt64.ofNat all.length)⟩

end Page

end ConfigRegistry
