import RelayHub.Table

/-! The two indexes of a hub. `users` holds every registered client under its user and id; `groups`
refers to clients by group, user and id. Entries go by key, but removal goes by identity: a client
that took over another one's key is not removed in its place. No bucket is ever left empty. -/
namespace RelayHub

abbrev Handle := Nat

/- A client as the indexes see it. Two clients are the same exactly if their handles are. -/
structure Member where
  handle : Handle
  user : String
  id : String
  tenant : String
  deriving DecidableEq, Repr

abbrev Bucket := Table Member

abbrev Users := Table Bucket

namespace Users

def at? (us : Users) (user id : String) : Option Member := (us.get? user).bind (·.get? id)

def holds (us : Users) (m : Member) : Bool := (us.at? m.user m.id).any (·.handle = m.handle)

def put (us : Users) (m : Member) : Users :=
  us.insert m.user (((us.get? m.user).getD .empty).insert m.id m)

def eraseFrom (b : Bucket) (m : Member) : Bucket :=
  if (b.get? m.id).any (·.handle = m.handle) then b.erase m.id else b

def dropEmpty (b : Bucket) : Option Bucket := if b.isEmpty then none else some b

def take (us : Users) (m : Member) : Users :=
  us.filterMap fun user b => if user = m.user then dropEmpty (eraseFrom b m) else some b

def members (us : Users) : List Member := us.values.flatMap Table.values

end Users

structure Registry where
  users : Users := .empty
  groups : Table Users := .empty

namespace Registry

instance : Inhabited Registry := ⟨{}⟩

def dropEmpty (us : Users) : Option Users := if us.isEmpty then none else some us

/- Stores the client under its key and returns the entry it replaced. Groups are not touched. -/
def insert (r : Registry) (m : Member) : Option Member × Registry :=
  (r.users.at? m.user m.id, { r with users := r.users.put m })

def remove (r : Registry) (m : Member) : Bool × Registry :=
  (r.users.holds m,
    { users := r.users.take m, groups := r.groups.filterMap fun _ us => dropEmpty (us.take m) })

def removeUser (r : Registry) (user : String) : Option (List Member) × Registry :=
  ((r.users.get? user).map Table.values,
    { users := r.users.erase user,
      groups := r.groups.filterMap fun _ us => dropEmpty (us.erase user) })

def join (r : Registry) (group : String) (m : Member) : Registry :=
  { r with groups := r.groups.insert group (((r.groups.get? group).getD .empty).put m) }

def isMember (r : Registry) (group : String) (m : Member) : Bool :=
  (r.groups.get? group).any (·.holds m)

def leave (r : Registry) (group : String) (m : Member) : Bool × Registry :=
  (r.isMember group m,
    { r with groups := r.groups.filterMap fun g us =>
        if g = group then dropEmpty (us.take m) else some us })

def contains (r : Registry) (m : Member) : Bool := r.users.holds m

def members (r : Registry) : List Member := r.users.members

def clear (r : Registry) : List Member × Registry := (r.members, {})

def client? (r : Registry) (user id : String) : Option Member := r.users.at? user id

def userMembers (r : Registry) (user : String) : List Member :=
  ((r.users.get? user).map Table.values).getD []

def groupMembers (r : Registry) (group : String) : List Member :=
  ((r.groups.get? group).map Users.members).getD []

def groupUsers (r : Registry) (group : String) : List String :=
  ((r.groups.get? group).map Table.keys).getD []

def groupMember? (r : Registry) (group user id : String) : Option Member :=
  (r.groups.get? group).bind (·.at? user id)

def connectedUsers (r : Registry) (tenant : Option String) : List String :=
  (r.users.entries.filter fun e =>
    match tenant with
    | some t => e.2.values.any (·.tenant = t)
    | none => true).map Prod.fst

def clientCount (r : Registry) : Nat := r.members.length
def userCount (r : Registry) : Nat := r.users.size
def groupCount (r : Registry) : Nat := r.groups.size

end Registry
end RelayHub
