import RelayHub.Connect.Query
import RelayHub.Proofs.Text.Apart

/-! Whatever way names and values are written in a query string, they are read back. A character stands for itself
where it is no mark, a space may be a plus, and everything may be percent triplets of its octets, with digits in either
case; pieces may be empty. -/
namespace RelayHub

namespace Query
open Utf8 (encodeChar encodeChars)

def IsDigit (n : Nat) (c : Char) : Prop := c = n.digitChar ∨ c = n.digitChar.toUpper

inductive Triplets : Bytes → List Char → Prop where
  | nil : Triplets [] []
  | cons {b bs high low cs} (first : IsDigit (b.toNat / 16) high) (second : IsDigit (b.toNat % 16) low)
      (rest : Triplets bs cs) : Triplets (b :: bs) ('%' :: high :: low :: cs)

/- One character as it may be written, in a name or in a value. An equals sign ends a name only. -/
inductive Written (inValue : Bool) (c : Char) : List Char → Prop where
  | plain (mark : c ∉ ['&', '+', '%', ' ']) (equals : c = '=' → inValue = true) : Written inValue c [c]
  | plus (space : c = ' ') : Written inValue c ['+']
  | triplets {ws} (octets : Triplets (encodeChar c) ws) : Written inValue c ws

inductive Spelt (inValue : Bool) : List Char → List Char → Prop where
  | nil : Spelt inValue [] []
  | cons {c cs w ws} (first : Written inValue c w) (rest : Spelt inValue cs ws) : Spelt inValue (c :: cs) (w ++ ws)

inductive Pieces : List (String × String) → List (List Char) → Prop where
  | nil : Pieces [] []
  | empty {ps ws} (rest : Pieces ps ws) : Pieces ps ([] :: ws)
  | pair {name value n v ps ws} (before : Spelt false name.toList n) (behind : Spelt true value.toList v)
      (rest : Pieces ps ws) : Pieces ((name, value) :: ps) ((n ++ '=' :: v) :: ws)

def Encodes (ps : List (String × String)) (query : String) : Prop :=
  ∃ ws, Pieces ps ws ∧ query.toList = ['&'].intercalate ws

section Characters

theorem digitOctet {n : Nat} {c : Char} (small : n < 16) (digit : IsDigit n c) :
    ∃ b, encodeChar c = [b] ∧ Json.hexValue b = some n := by
  have octets : ∀ n < 16, (encodeChar n.digitChar).map Json.hexValue = [some n] ∧
      (encodeChar n.digitChar.toUpper).map Json.hexValue = [some n] := by decide
  obtain ⟨lower, upper⟩ := octets n small
  rcases digit with rfl | rfl
  · simpa using List.map_eq_singleton_iff.mp lower
  · simpa using List.map_eq_singleton_iff.mp upper

theorem digitMark {n : Nat} {c : Char} (small : n < 16) (digit : IsDigit n c) : c ≠ '&' ∧ c ≠ '=' := by
  have marks : ∀ n < 16, (n.digitChar ≠ '&' ∧ n.digitChar ≠ '=') ∧
      n.digitChar.toUpper ≠ '&' ∧ n.digitChar.toUpper ≠ '=' := by decide
  rcases digit with rfl | rfl
  · exact (marks n small).1
  · exact (marks n small).2

theorem highDigit (b : UInt8) : b.toNat / 16 < 16 := by
  have := b.toNat_lt
  omega

theorem lowDigit (b : UInt8) : b.toNat % 16 < 16 := Nat.mod_lt _ (by decide)

theorem tripletsMark {bs : Bytes} {ws : List Char} (triplets : Triplets bs ws) : '&' ∉ ws ∧ '=' ∉ ws := by
  induction triplets with
  | nil => simp
  | @cons b bs high low cs first second rest ih =>
    have high := digitMark (highDigit b) first
    have low := digitMark (lowDigit b) second
    simp [ih, high.1.symm, high.2.symm, low.1.symm, low.2.symm]

theorem writtenMark {inValue : Bool} {c : Char} {w : List Char} (written : Written inValue c w) :
    '&' ∉ w ∧ ('=' ∈ w → inValue = true) := by
  cases written with
  | plain mark equals => grind
  | plus => simp
  | triplets octets => exact ⟨(tripletsMark octets).1, fun equals => absurd equals (tripletsMark octets).2⟩

theorem speltMark {inValue : Bool} {cs ws : List Char} (spelt : Spelt inValue cs ws) :
    '&' ∉ ws ∧ ('=' ∈ ws → inValue = true) := by
  induction spelt with
  | nil => simp
  | cons first rest ih => grind [writtenMark first]

end Characters

section Octets

theorem unescapePlain {b : UInt8} (plain : b ≠ 0x25) (rest : Bytes) :
    unescape (b :: rest) = plusToSpace b :: unescape rest := by
  match rest with
  | [] | [_] => rfl
  | _ :: _ :: _ => rw [unescape, if_neg plain]

theorem unescapeTriplet {a c : UInt8} {high low : Nat} (first : Json.hexValue a = some high)
    (second : Json.hexValue c = some low) (rest : Bytes) :
    unescape (0x25 :: a :: c :: rest) = UInt8.ofNat (high * 16 + low) :: unescape rest := by
  simp only [unescape, if_true, first, second]

theorem unescapePlains {bs : Bytes} (plain : ∀ b ∈ bs, b ≠ 0x25 ∧ b ≠ 0x2B) (rest : Bytes) :
    unescape (bs ++ rest) = bs ++ unescape rest := by
  induction bs with
  | nil => rfl
  | cons b bs ih =>
    obtain ⟨⟨percent, plus⟩, plain⟩ := List.forall_mem_cons.mp plain
    rw [List.cons_append, unescapePlain percent, ih plain, plusToSpace, if_neg plus]
    rfl

theorem encodeAppend (cs ds : List Char) : encodeChars (cs ++ ds) = encodeChars cs ++ encodeChars ds :=
  List.flatMap_append

theorem tripletsRead {bs : Bytes} {ws : List Char} (triplets : Triplets bs ws) (rest : Bytes) :
    unescape (encodeChars ws ++ rest) = bs ++ unescape rest := by
  induction triplets with
  | nil => rfl
  | @cons b bs high low cs first second _ ih =>
    obtain ⟨a, highOctet, highValue⟩ := digitOctet (highDigit b) first
    obtain ⟨c, lowOctet, lowValue⟩ := digitOctet (lowDigit b) second
    have octets : encodeChars ('%' :: high :: low :: cs) = 0x25 :: a :: c :: encodeChars cs := by
      simp only [encodeChars, List.flatMap_cons, highOctet, lowOctet]
      rfl
    have whole : b.toNat / 16 * 16 + b.toNat % 16 = b.toNat := by omega
    rw [octets, List.cons_append, List.cons_append, List.cons_append, unescapeTriplet highValue lowValue, ih, whole,
      UInt8.ofNat_toNat]
    rfl

theorem writtenRead {inValue : Bool} {c : Char} {w : List Char} (written : Written inValue c w) (rest : Bytes) :
    unescape (encodeChars w ++ rest) = encodeChar c ++ unescape rest := by
  cases written with
  | plain mark =>
    have octets : encodeChars [c] = encodeChar c := List.append_nil _
    rw [octets]
    refine unescapePlains (fun b member => ⟨?_, ?_⟩) rest
    · rintro rfl
      exact mark (by simp [Utf8.markOwn (m := '%') (by decide) member])
    · rintro rfl
      exact mark (by simp [Utf8.markOwn (m := '+') (by decide) member])
  | plus space =>
    subst space
    exact unescapePlain (by decide) rest
  | triplets octets => exact tripletsRead octets rest

theorem speltRead {inValue : Bool} {cs ws : List Char} (spelt : Spelt inValue cs ws) (rest : Bytes) :
    unescape (encodeChars ws ++ rest) = encodeChars cs ++ unescape rest := by
  induction spelt with
  | nil => rfl
  | @cons c cs w ws first _ ih =>
    rw [encodeAppend, List.append_assoc, writtenRead first, ih, ← List.append_assoc]
    rfl

theorem decodeSpelt {inValue : Bool} {s : String} {ws : List Char} (spelt : Spelt inValue s.toList ws) :
    decodeText (encodeChars ws) = s := by
  have read := speltRead spelt []
  rw [List.append_nil, show unescape [] = [] from rfl, List.append_nil] at read
  rw [decodeText, read]
  exact Utf8.decodeLossyEncode s

end Octets

section Splitting

theorem joinedOctets (ws : List (List Char)) :
    encodeChars (['&'].intercalate ws) = [(0x26 : UInt8)].intercalate (ws.map encodeChars) := by
  induction ws with
  | nil => rfl
  | cons w ws ih =>
    cases ws with
    | nil => simp
    | cons next ws =>
      rw [List.intercalate_cons_cons, encodeAppend, encodeAppend, ih]
      exact List.intercalate_cons_cons.symm

theorem unmarked {m : Char} {cs : List Char} (mark : m.toNat < 0x80) (absent : m ∉ cs) :
    Utf8.octet m.toNat ∉ encodeChars cs := by
  intro member
  obtain ⟨c, here, octet⟩ := List.mem_flatMap.mp member
  exact absent (Utf8.markOwn mark octet ▸ here)

theorem pairRead {name value : String} {n v : List Char} (before : Spelt false name.toList n)
    (behind : Spelt true value.toList v) : pair (encodeChars (n ++ '=' :: v)) = (name, value) := by
  have octets : encodeChars (n ++ '=' :: v) = encodeChars n ++ 0x3D :: encodeChars v := encodeAppend n ('=' :: v)
  have free : ∀ b ∈ encodeChars n, decide (b ≠ 0x3D) = true := by
    intro b member
    have absent : '=' ∉ n := fun sign => absurd ((speltMark before).2 sign) Bool.false_ne_true
    refine decide_eq_true ?_
    rintro rfl
    exact unmarked (m := '=') (by decide) absent member
  simp only [pair, octets]
  rw [List.takeWhile_append_of_pos free, List.dropWhile_append_of_pos free, List.takeWhile_cons_of_neg (by decide),
    List.dropWhile_cons_of_neg (by decide), List.append_nil, List.drop_one, List.tail_cons, decodeSpelt before,
    decodeSpelt behind]

theorem piecesRead {ps : List (String × String)} {ws : List (List Char)} (pieces : Pieces ps ws) :
    ((ws.map encodeChars).filter fun piece => !piece.isEmpty).map pair = ps := by
  induction pieces with
  | nil => rfl
  | empty _ ih => exact ih
  | @pair name value n v ps ws before behind _ ih =>
    have some : (encodeChars (n ++ '=' :: v)).isEmpty = false := by
      rw [encodeAppend]
      exact List.isEmpty_eq_false_iff.mpr (List.append_ne_nil_of_right_ne_nil _ (List.cons_ne_nil 0x3D _))
    rw [List.map_cons, List.filter_cons_of_pos (by rw [some]; rfl), List.map_cons, pairRead before behind, ih]

theorem piecesMark {ps : List (String × String)} {ws : List (List Char)} (pieces : Pieces ps ws) :
    ∀ w ∈ ws, '&' ∉ w := by
  induction pieces with
  | nil => simp
  | empty _ ih => simpa using ih
  | pair before behind _ ih => simpa [(speltMark before).1, (speltMark behind).1] using ih

theorem writtenPlain {inValue : Bool} {c : Char} (mark : c ∉ ['&', '+', '%', ' ', '=']) : Written inValue c [c] :=
  .plain (by grind) (by grind)

theorem speltPlain (inValue : Bool) {cs : List Char} (plain : cs.all fun c => c ∉ ['&', '+', '%', ' ', '=']) :
    Spelt inValue cs cs := by
  induction cs with
  | nil => exact .nil
  | cons c cs ih =>
    obtain ⟨mark, plain⟩ := Bool.and_eq_true_iff.mp plain
    exact .cons (writtenPlain (of_decide_eq_true mark)) (ih plain)

theorem encodedPairs {ps : List (String × String)} {query : String} (encodes : Encodes ps query) :
    pairs (Utf8.encode query) = ps := by
  obtain ⟨ws, pieces, joined⟩ := encodes
  rw [pairs, Utf8.encode, joined, joinedOctets]
  cases ws with
  | nil => cases pieces; rfl
  | cons w rest =>
    have apart : ∀ bs ∈ (w :: rest).map encodeChars, (0x26 : UInt8) ∉ bs := by
      intro bs member
      obtain ⟨piece, here, rfl⟩ := List.mem_map.mp member
      exact unmarked (m := '&') (by decide) (piecesMark pieces piece here)
    rw [List.splitOn_intercalate _ apart (List.cons_ne_nil _ _)]
    exact piecesRead pieces

end Splitting

section Told
variable {ps : List (String × String)}

def told (name : String) (ps : List (String × String)) : List String := (ps.filter (·.1 = name)).map (·.2)

theorem lastTold (name : String) (test : String → Bool) (ps : List (String × String)) :
    last? name test ps = ((told name ps).filter test).getLast? := by
  have onwards : ∀ found : Option String,
      ps.foldl (fun found p => if p.1 = name ∧ test p.2 then some p.2 else found) found =
        ((told name ps).filter test).getLast?.or found := by
    induction ps with
    | nil => exact fun found => rfl
    | cons p ps ih =>
      intro found
      rw [List.foldl_cons, ih]
      by_cases named : p.1 = name
      · by_cases passed : test p.2 = true
        · simp [told, named, passed, List.getLast?_cons]
        · simp [told, named, passed]
      · simp [told, named]
  exact (onwards none).trans Option.or_none

structure Tells (ps : List (String × String)) (params : ConnectParams) : Prop where
  user : told "user_id" ps = [params.user]
  tenant : told "tenant_id" ps = [params.tenant] ∨ told "tenant_id" ps = [] ∧ params.tenant = ""
  token : told "token" ps = params.token.toList

end Told

end Query

namespace ConnectParams
open Query

theorem ofPairsTold (ps : List (String × String)) : ofPairs ps =
    ((told "user_id" ps).filter (· ≠ "")).getLast?.map fun user =>
      ⟨user, (told "tenant_id" ps).getLast?.getD "", ((told "token" ps).filter (· ≠ "")).getLast?⟩ := by
  have filled : (fun s : String => !s.isEmpty) = fun s => decide (s ≠ "") := by
    funext s
    rw [decide_not, Bool.not_inj_iff, Bool.eq_iff_iff, String.isEmpty_iff, decide_eq_true_eq]
  have all : (told "tenant_id" ps).filter (fun _ => true) = told "tenant_id" ps := List.filter_eq_self.mpr (by simp)
  rw [ofPairs, lastTold, lastTold, lastTold, all, filled]
  exact Option.map_eq_bind.symm

/-- Whoever connects is read from a query string as it was written there, in any of the ways to write it: the last user
id that is not empty has to be there, the last tenant counts also if it is empty, and the last token that is not empty
counts. So all parameters that can be told come back from each of their encodings. -/
theorem readsEveryEncoding {ps : List (String × String)} {query : String} (encodes : Encodes ps query) :
    ofQuery (some query) = (((told "user_id" ps).filter (· ≠ "")).getLast?.map fun user =>
      ⟨user, (told "tenant_id" ps).getLast?.getD "", ((told "token" ps).filter (· ≠ "")).getLast?⟩) ∧
    ∀ params : ConnectParams, params.user ≠ "" → params.token ≠ some "" → Tells ps params →
      ofQuery (some query) = some params := by
  have read : ofQuery (some query) = ofPairs ps := congrArg ofPairs (encodedPairs encodes)
  rw [read, ofPairsTold]
  refine ⟨rfl, fun params user token tells => ?_⟩
  have tenant : (told "tenant_id" ps).getLast?.getD "" = params.tenant := by
    rcases tells.tenant with once | ⟨never, empty⟩
    · rw [once]; rfl
    · rw [never, empty]; rfl
  have token : ((told "token" ps).filter (· ≠ "")).getLast? = params.token := by
    rw [tells.token]
    cases said : params.token with
    | none => rfl
    | some s =>
      have filled : s ≠ "" := fun empty => token (said.trans (congrArg some empty))
      simp [filled]
  rw [tells.user, tenant, token]
  simp [user]

def mixedQuery : String := "&user%5fid=%C3%a9+=&x%3D=1&&tenant_id="

theorem mixedQueryRead : Encodes [("user_id", "é ="), ("x=", "1"), ("tenant_id", "")] mixedQuery ∧
    ofQuery (some mixedQuery) = some ⟨"é =", "", none⟩ := by
  have underscore : Written false '_' ['%', '5', 'f'] :=
    .triplets (show Triplets [0x5F] _ from .cons (.inl rfl) (.inl rfl) .nil)
  have accent : Written true 'é' ['%', 'C', '3', '%', 'a', '9'] :=
    .triplets (show Triplets [0xC3, 0xA9] _ from .cons (.inr rfl) (.inl rfl) (.cons (.inl rfl) (.inl rfl) .nil))
  have equals : Written false '=' ['%', '3', 'D'] :=
    .triplets (show Triplets [0x3D] _ from .cons (.inl rfl) (.inr rfl) .nil)
  have user : Spelt false "user_id".toList "user%5fid".toList :=
    .cons (writtenPlain (by decide)) <| .cons (writtenPlain (by decide)) <| .cons (writtenPlain (by decide)) <|
      .cons (writtenPlain (by decide)) <| .cons underscore (speltPlain _ (by decide))
  have name : Spelt true "é =".toList "%C3%a9+=".toList :=
    .cons accent <| .cons (.plus rfl) <| .cons (.plain (by decide) (by decide)) .nil
  have other : Spelt false "x=".toList "x%3D".toList := .cons (writtenPlain (by decide)) <| .cons equals .nil
  have encodes : Encodes [("user_id", "é ="), ("x=", "1"), ("tenant_id", "")] mixedQuery :=
    ⟨[[], "user%5fid=%C3%a9+=".toList, "x%3D=1".toList, [], "tenant_id=".toList],
      .empty <| .pair user name <| .pair other (speltPlain _ (by decide)) <| .empty <|
        .pair (speltPlain _ (by decide)) .nil .nil, by decide⟩
  exact ⟨encodes, (readsEveryEncoding encodes).2 ⟨"é =", "", none⟩ (by decide) (by decide)
    ⟨by decide, .inl (by decide), by decide⟩⟩

end ConnectParams
end RelayHub
