/-!
Pages of a list: how many items at most, and how many to leave out first. Requests out of bounds are
moved to the nearest bound.
-/

set_option autoImplicit false

namespace StatusPage.Paging

def defaultLimit : Int := 50
def maxLimit : Int := 100

def clampLimit (limit : Option Int) (default highest : Int) : Int :=
  min (max (limit.getD default) 1) highest

def clampOffset (offset : Option Int) : Int := max (offset.getD 0) 0

def page {α : Type} (limit offset : Option Int) (items : List α) : List α :=
  (items.drop (clampOffset offset).toNat).take (clampLimit limit defaultLimit maxLimit).toNat

end StatusPage.Paging
