/-! Which browser origins may connect. -/
namespace RelayHub

inductive OriginPolicy where
  | allowAll
  | allowListed (origins : List String)
  deriving DecidableEq, Repr

namespace OriginPolicy

def insertOrigin (o : String) : List String → List String
  | [] => [o]
  | x :: rest => if o = x then x :: rest else if o < x then o :: x :: rest else x :: insertOrigin o rest

def ofOrigins (origins : List String) : OriginPolicy :=
  match origins.foldl (fun sorted o => insertOrigin o sorted) [] with
  | [] => .allowAll
  | listed => .allowListed listed

instance : Inhabited OriginPolicy := ⟨.allowAll⟩

def listed? : OriginPolicy → Option (List String)
  | .allowAll => none
  | .allowListed origins => some origins

def allows (p : OriginPolicy) (origin : Option String) : Bool :=
  match p, origin with
  | .allowAll, _ => true
  | .allowListed _, none => false
  | .allowListed origins, some o => origins.contains o

end OriginPolicy
end RelayHub
