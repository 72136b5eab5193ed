import RelayHub.Message.Client

/-! Messages can be compared, so that what a text is read as can be computed. -/
namespace RelayHub

namespace Json

mutual
def same : Json → Json → Bool
  | .null, .null => true
  | .bool a, .bool b => a = b
  | .integer a, .integer b => a = b
  | .real a, .real b => a = b
  | .string a, .string b => a = b
  | .array as, .array bs => sameItems as bs
  | .object as, .object bs => sameMembers as bs
  | _, _ => false

def sameItems : List Json → List Json → Bool
  | [], [] => true
  | a :: as, b :: bs => same a b && sameItems as bs
  | _, _ => false

def sameMembers : List (String × Json) → List (String × Json) → Bool
  | [], [] => true
  | (n, a) :: as, (m, b) :: bs => n = m && same a b && sameMembers as bs
  | _, _ => false
end

mutual
theorem sameIff (a b : Json) : same a b = true ↔ a = b := by
  cases a with
  | null | bool | integer | real | string =>
    cases b with
    | _ => simp [same]
  | array as =>
    cases b with
    | array bs => simpa [same] using sameItemsIff as bs
    | _ => simp [same]
  | object as =>
    cases b with
    | object bs => simpa [same] using sameMembersIff as bs
    | _ => simp [same]

theorem sameItemsIff (as bs : List Json) : sameItems as bs = true ↔ as = bs := by
  cases as with
  | nil =>
    cases bs with
    | _ => simp [sameItems]
  | cons a as =>
    cases bs with
    | nil => simp [sameItems]
    | cons b bs => simp [sameItems, sameIff a b, sameItemsIff as bs]

theorem sameMembersIff (as bs : List (String × Json)) : sameMembers as bs = true ↔ as = bs := by
  cases as with
  | nil =>
    cases bs with
    | _ => simp [sameMembers]
  | cons member as =>
    obtain ⟨n, a⟩ := member
    cases bs with
    | nil => simp [sameMembers]
    | cons other bs => simp [sameMembers, sameIff a other.2, sameMembersIff as bs, Prod.ext_iff]
end

instance : DecidableEq Json := fun a b => decidable_of_iff _ (sameIff a b)

end Json

deriving instance DecidableEq for ClientMessage

theorem ClientMessage.readsAs {raw : Bytes} {m : ClientMessage} (shown : (read raw).toOption = some m) :
    read raw = .ok m := by
  cases answer : read raw with
  | ok m' =>
    rw [answer] at shown
    exact congrArg Except.ok (Option.some.inj shown)
  | error r =>
    rw [answer] at shown
    contradiction

end RelayHub
