import StatusPage.Named

/-!
Roles and what they permit. Roles are ranked; a role text that names no role has rank zero and
permits nothing.
-/

set_option autoImplicit false

namespace StatusPage

inductive Role where
  | user
  | operator
  | admin
  deriving DecidableEq, Repr

namespace Role

def name : Role → String
  | .user => "user"
  | .operator => "operator"
  | .admin => "admin"

instance : Named Role := ⟨"role", [.user, .operator, .admin], name⟩

def rank : Role → Nat
  | .user => 1
  | .operator => 2
  | .admin => 3

def hasPermission (role required : Role) : Bool := required.rank ≤ role.rank

def rankOf (text : String) : Nat := ((Named.ofName? text : Option Role).map rank).getD 0

/-- Whether the role that a text names ranks at least as high as the one that is required. -/
def permits (text : String) (required : Role) : Bool := required.rank ≤ rankOf text

end Role

end StatusPage
