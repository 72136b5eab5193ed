import RelayHub.Proofs.Message.Equality
import RelayHub.Proofs.Message.Reading

/-! Which objects a client may send. The tag and the fields of its variant decide, each of them by the values that
stand under its name; the other members, and the order of all, do not matter. -/
namespace RelayHub

namespace Message
open Json (named)

theorem textHolds {found : List Json} {s : String} : FieldKind.text.Holds found s ↔ found = [.string s] := by
  constructor
  · rintro (⟨-, absent⟩ | ⟨v, rfl, read⟩)
    · cases absent
    · cases v with
      | string t =>
        cases read
        rfl
      | null | bool | integer | real | array | object => cases read
  · rintro rfl
    exact .inr ⟨_, rfl, rfl⟩

theorem payloadHolds {found : List Json} {p : Json} :
    FieldKind.payload.Holds found p ↔ ∃ v, found = [v] ∧ v.canonical = p := by
  constructor
  · rintro (⟨-, absent⟩ | ⟨v, rfl, read⟩)
    · cases absent
    · cases read
      exact ⟨v, rfl, rfl⟩
  · rintro ⟨v, rfl, rfl⟩
    exact .inr ⟨v, rfl, rfl⟩

theorem flagHolds {found : List Json} {b : Bool} :
    FieldKind.flag.Holds found b ↔ found = [] ∧ b = false ∨ found = [.bool b] := by
  constructor
  · rintro (⟨none, absent⟩ | ⟨v, rfl, read⟩)
    · exact .inl ⟨none, (Option.some.inj absent).symm⟩
    · cases v with
      | bool c =>
        cases read
        exact .inr rfl
      | null | integer | real | string | array | object => cases read
  · rintro (⟨rfl, rfl⟩ | rfl)
    · exact .inl ⟨rfl, rfl⟩
    · exact .inr ⟨_, rfl, rfl⟩

end Message

namespace ClientMessage
open Message
open Json (named)

inductive Tells (ms : List (String × Json)) : ClientMessage → Prop where
  | join {g : String} (tag : named "type" ms = [.string "join"]) (group : named "group" ms = [.string g]) :
    Tells ms (.join g)
  | leave {g : String} (tag : named "type" ms = [.string "leave"]) (group : named "group" ms = [.string g]) :
    Tells ms (.leave g)
  | group {g : String} {p : Json} {e : Bool} (tag : named "type" ms = [.string "group"])
    (group : named "group" ms = [.string g]) (payload : named "payload" ms = [p])
    (echo : named "echo" ms = [] ∧ e = false ∨ named "echo" ms = [.bool e]) : Tells ms (.group g p.canonical e)
  | direct {u : String} {p : Json} (tag : named "type" ms = [.string "direct"])
    (user : named "user_id" ms = [.string u]) (payload : named "payload" ms = [p]) : Tells ms (.direct u p.canonical)
  | tenant {p : Json} (tag : named "type" ms = [.string "tenant"]) (payload : named "payload" ms = [p]) :
    Tells ms (.tenant p.canonical)
  | broadcast {p : Json} (tag : named "type" ms = [.string "broadcast"]) (payload : named "payload" ms = [p]) :
    Tells ms (.broadcast p.canonical)

def fieldNames (tag : String) : List String :=
  if tag = "join" ∨ tag = "leave" then ["group"]
  else if tag = "group" then ["group", "payload", "echo"]
  else if tag = "direct" then ["user_id", "payload"]
  else if tag = "tenant" ∨ tag = "broadcast" then ["payload"]
  else []

/- The names that count in an object: that of the tag, and those of the fields that go with it. -/
def heeded (ms : List (String × Json)) : List String :=
  "type" :: match named "type" ms with
    | [.string tag] => fieldNames tag
    | _ => []

theorem variantsSound : ∀ v ∈ schema.variants, v.Sound := by
  have names : ∀ v ∈ schema.variants, (v.fields.map Field.name).Nodup ∧ ∀ f ∈ v.fields, f.name ≠ tagName := by
    decide
  exact fun v listed => ⟨(names v listed).1, (names v listed).2⟩

section Object
variable {ms ms' : List (String × Json)} {text : Bytes}

theorem tellsAgain (agree : ∀ name ∈ heeded ms, (named name ms').Perm (named name ms)) {m : ClientMessage}
    (told : Tells ms m) : Tells ms' m := by
  have one : ∀ {name v}, name ∈ heeded ms → named name ms = [v] → named name ms' = [v] := by
    intro name v counts here
    exact List.perm_singleton.mp (here ▸ agree name counts)
  have tag : "type" ∈ heeded ms := List.mem_cons_self
  cases told with
  | join type group =>
    have counts : heeded ms = ["type", "group"] := by simp [heeded, type, fieldNames]
    exact .join (one tag type) (one (by simp [counts]) group)
  | leave type group =>
    have counts : heeded ms = ["type", "group"] := by simp [heeded, type, fieldNames]
    exact .leave (one tag type) (one (by simp [counts]) group)
  | group type group payload echo =>
    have counts : heeded ms = ["type", "group", "payload", "echo"] := by simp [heeded, type, fieldNames]
    refine .group (one tag type) (one (by simp [counts]) group) (one (by simp [counts]) payload) ?_
    rcases echo with ⟨none, absent⟩ | given
    · have same := agree "echo" (by simp [counts])
      rw [none] at same
      exact .inl ⟨List.perm_nil.mp same, absent⟩
    · exact .inr (one (by simp [counts]) given)
  | direct type user payload =>
    have counts : heeded ms = ["type", "user_id", "payload"] := by simp [heeded, type, fieldNames]
    exact .direct (one tag type) (one (by simp [counts]) user) (one (by simp [counts]) payload)
  | tenant type payload =>
    have counts : heeded ms = ["type", "payload"] := by simp [heeded, type, fieldNames]
    exact .tenant (one tag type) (one (by simp [counts]) payload)
  | broadcast type payload =>
    have counts : heeded ms = ["type", "payload"] := by simp [heeded, type, fieldNames]
    exact .broadcast (one tag type) (one (by simp [counts]) payload)

theorem tellsTag {m : ClientMessage} (told : Tells ms m) : ∃ tag, named "type" ms = [.string tag] := by
  cases told with
  | join type _ => exact ⟨_, type⟩
  | leave type _ => exact ⟨_, type⟩
  | group type _ _ _ => exact ⟨_, type⟩
  | direct type _ _ => exact ⟨_, type⟩
  | tenant type _ => exact ⟨_, type⟩
  | broadcast type _ => exact ⟨_, type⟩

theorem tellsSame (agree : ∀ name ∈ heeded ms, (named name ms').Perm (named name ms)) {m : ClientMessage} :
    Tells ms' m ↔ Tells ms m := by
  refine ⟨fun told => ?_, tellsAgain agree⟩
  obtain ⟨tag, type'⟩ := tellsTag told
  have same := agree "type" List.mem_cons_self
  rw [type'] at same
  have type := List.singleton_perm.mp same
  have counts : heeded ms' = heeded ms := by rw [heeded, heeded, ← type, type']
  exact tellsAgain (fun name here => (agree name (counts ▸ here)).symm) told

theorem readTells (spelt : Json.IsText (.object ms) text) (shallow : (Json.object ms).levels ≤ Json.maxDepth)
    {m : ClientMessage} : read text = .ok m ↔ Tells ms m := by
  rw [read, readFilled schema variantsSound spelt shallow]
  constructor
  · rintro ⟨tag, v, here, found, xs, filled, rfl⟩
    have listed := List.mem_of_find?_eq_some found
    have tagged : v.tag = tag := by simpa using List.find?_some found
    subst tagged
    simp only [schema, List.mem_cons, List.not_mem_nil, or_false] at listed
    rcases listed with rfl | rfl | rfl | rfl | rfl | rfl
    · obtain ⟨group, -⟩ := filled
      exact .join here (textHolds.mp group)
    · obtain ⟨group, -⟩ := filled
      exact .leave here (textHolds.mp group)
    · obtain ⟨group, payload, echo, -⟩ := filled
      obtain ⟨p, payload, kept⟩ := payloadHolds.mp payload
      have told := Tells.group here (textHolds.mp group) payload (flagHolds.mp echo)
      rw [kept] at told
      exact told
    · obtain ⟨user, payload, -⟩ := filled
      obtain ⟨p, payload, kept⟩ := payloadHolds.mp payload
      have told := Tells.direct here (textHolds.mp user) payload
      rw [kept] at told
      exact told
    · obtain ⟨payload, -⟩ := filled
      obtain ⟨p, payload, kept⟩ := payloadHolds.mp payload
      have told := Tells.tenant here payload
      rw [kept] at told
      exact told
    · obtain ⟨payload, -⟩ := filled
      obtain ⟨p, payload, kept⟩ := payloadHolds.mp payload
      have told := Tells.broadcast here payload
      rw [kept] at told
      exact told
  · rintro told
    cases told with
    | @join g tag group => exact ⟨"join", _, tag, rfl, (g, ()), ⟨textHolds.mpr group, trivial⟩, rfl⟩
    | @leave g tag group => exact ⟨"leave", _, tag, rfl, (g, ()), ⟨textHolds.mpr group, trivial⟩, rfl⟩
    | @group g p e tag group payload echo =>
      have payload := payloadHolds.mpr ⟨p, payload, rfl⟩
      exact ⟨"group", _, tag, rfl, (g, p.canonical, e, ()),
        ⟨textHolds.mpr group, payload, flagHolds.mpr echo, trivial⟩, rfl⟩
    | @direct u p tag user payload =>
      have payload := payloadHolds.mpr ⟨p, payload, rfl⟩
      exact ⟨"direct", _, tag, rfl, (u, p.canonical, ()), ⟨textHolds.mpr user, payload, trivial⟩, rfl⟩
    | @tenant p tag payload =>
      exact ⟨"tenant", _, tag, rfl, (p.canonical, ()), ⟨payloadHolds.mpr ⟨p, payload, rfl⟩, trivial⟩, rfl⟩
    | @broadcast p tag payload =>
      exact ⟨"broadcast", _, tag, rfl, (p.canonical, ()), ⟨payloadHolds.mpr ⟨p, payload, rfl⟩, trivial⟩, rfl⟩

end Object

/-- Which objects a client may send, and what they are read as. A well formed object is read as a message exactly when
its members tell it: one member named `type`, with one of the six names; each field of that variant by one
member of its type, `echo` by one or none; a payload as it is kept. Members of other names, and the order of all, have
no influence. Of a repeated name a payload keeps the last value, and so do the objects within. The well formed
objects are no narrower than what is read: every text in braces that is read as a message is one of them. -/
theorem readsWhatIsTold :
    (∀ ms text, Json.IsText (.object ms) text → (Json.object ms).levels ≤ 127 →
      ∀ m, read text = .ok m ↔ Tells ms m) ∧
    (∀ ms text, Json.IsText (.object ms) text → (Json.object ms).levels ≤ 127 →
      ∀ ms' text', Json.IsText (.object ms') text' → (Json.object ms').levels ≤ 127 →
        (∀ name ∈ heeded ms, (named name ms').Perm (named name ms)) →
          ∀ m, read text' = .ok m ↔ read text = .ok m) ∧
    (∀ ps, ∃ kept, (Json.object ps).canonical = .object kept ∧ Json.Sorted kept ∧
      ∀ name, Json.member? name kept = (named name ps).getLast?.map Json.canonical) ∧
    ∀ text inside m, Json.skipBlank text = 0x7B :: inside → read text = .ok m →
      ∃ ms, Json.IsText (.object ms) text ∧ (Json.object ms).levels ≤ 127 := by
  refine ⟨fun ms text spelt shallow m => readTells spelt shallow, ?_, Json.canonicalObject, ?_⟩
  · intro ms text spelt shallow ms' text' spelt' shallow' agree m
    rw [readTells spelt shallow, readTells spelt' shallow', tellsSame agree]
  · intro text inside m opens ran
    exact objectAccepted schema opens ran

def repeated : Json := .object [("a", .integer 1), ("a", .integer 2)]

def scattered : Bytes := Utf8.encode
  " \x7b\"x\" : 1, \"payload\":\x7b\"a\":1, \"a\":2\x7d,\"\\u0074ype\": \"tenant\" ,\"x\":null\x7d\n"

def scatteredMembers : List (String × Json) :=
  [("x", .integer 1), ("payload", repeated), ("type", .string "tenant"), ("x", .null)]

def tidy : Bytes := Utf8.encode "\x7b\"type\":\"tenant\",\"payload\":\x7b\"a\":1,\"a\":2\x7d\x7d"

def tidyMembers : List (String × Json) := [("type", .string "tenant"), ("payload", repeated)]

theorem scatteredRead : read scattered = .ok (.tenant (.object [("a", .integer 2)])) ∧
    read tidy = .ok (.tenant (.object [("a", .integer 2)])) ∧
    ∃ ms, Json.IsText (.object ms) tidy ∧ (Json.object ms).levels ≤ 127 := by
  have spelt : ∀ s ms, (Json.read s).toOption = some (.object ms) →
      Json.IsText (.object ms) s ∧ (Json.object ms).levels ≤ 127 :=
    fun _ _ shown => Json.readIff.mp (Json.okOfSome shown)
  obtain ⟨scatteredText, scatteredFlat⟩ := spelt scattered scatteredMembers (by decide +kernel)
  obtain ⟨tidyText, tidyFlat⟩ := spelt tidy tidyMembers (by decide +kernel)
  have told : Tells scatteredMembers (.tenant repeated.canonical) := .tenant (by decide) (by decide)
  have kept : repeated.canonical = .object [("a", .integer 2)] := by decide
  have agree : ∀ name ∈ heeded scatteredMembers, named name tidyMembers = named name scatteredMembers := by decide
  obtain ⟨reads, same, -, only⟩ := readsWhatIsTold
  have first := (reads _ _ scatteredText scatteredFlat _).mpr (kept ▸ told)
  have second := (same _ _ scatteredText scatteredFlat _ _ tidyText tidyFlat
    (fun name here => List.Perm.of_eq (agree name here)) _).mpr first
  have opens : Json.skipBlank tidy = 0x7B :: tidy.tail := by decide +kernel
  exact ⟨first, second, only tidy _ _ opens second⟩

end ClientMessage
end RelayHub
