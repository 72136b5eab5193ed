import RelayHub.Connect.Origin
import RelayHub.Proofs.Settings.Layers

/-! The origins of a variable as a policy. A policy of listed origins lets those through and no other; a variable lists
what stands between its commas, and so it always lists something. -/
namespace RelayHub.OriginPolicy
open Settings

section Listed
variable {o x : String} {origins sorted : List String}

theorem insertMember (o x : String) (sorted : List String) : x ∈ insertOrigin o sorted ↔ x = o ∨ x ∈ sorted := by
  induction sorted with
  | nil => exact List.mem_cons
  | cons first rest ih =>
    rw [insertOrigin]
    split
    · rename_i same
      subst same
      exact (or_iff_right_of_imp fun same => same ▸ List.mem_cons_self).symm
    · split
      · exact List.mem_cons
      · rw [List.mem_cons, ih, List.mem_cons]
        exact or_left_comm

theorem collected (origins sorted : List String) :
    x ∈ origins.foldl (fun sorted o => insertOrigin o sorted) sorted ↔ x ∈ origins ∨ x ∈ sorted := by
  induction origins generalizing sorted with
  | nil => exact (or_iff_right List.not_mem_nil).symm
  | cons o origins ih =>
    rw [List.foldl_cons, ih, insertMember, List.mem_cons, or_left_comm, or_assoc]

theorem allowsIff (origins : List String) (request : Option String) :
    (ofOrigins origins).allows request = true ↔ origins = [] ∨ ∃ o ∈ origins, request = some o := by
  have members := fun x => collected (x := x) origins []
  rw [ofOrigins]
  generalize origins.foldl (fun sorted o => insertOrigin o sorted) [] = sorted at members
  simp only [List.not_mem_nil, or_false] at members
  cases sorted with
  | nil =>
    have empty : origins = [] := List.eq_nil_iff_forall_not_mem.mpr fun x member => by
      cases (members x).mpr member
    exact iff_of_true rfl (.inl empty)
  | cons first rest =>
    have some : origins ≠ [] := List.ne_nil_of_mem ((members first).mp List.mem_cons_self)
    rw [or_iff_right some]
    cases request with
    | none => simp [allows]
    | some o => simp [allows, ← members]

end Listed

section FromVariable
variable {src : Sources} {file : List (String × Tree)} {origins : List String}

theorem joinedApart (whole : ∀ o ∈ origins, ',' ∉ o.toList) :
    ((",".intercalate origins).toList.splitOn ',').map String.ofList = if origins = [] then [""] else origins := by
  rw [String.toList_intercalate]
  split
  · rename_i none
    rw [none]
    rfl
  · rename_i some
    have pieces : ([','].intercalate (origins.map String.toList)).splitOn ',' = origins.map String.toList :=
      List.splitOn_intercalate ',' (by simpa using whole) (by simpa using some)
    refine (congrArg (List.map String.ofList) pieces).trans ?_
    simp

/-- The variable for the origins lists them, whatever the file has in their place: a request goes through if its origin
is listed, and only then. A variable without text lists one empty origin, so that it lets no other request through. -/
theorem followsVariable (read : src.fileEntries = .ok file) (orderly : Orderly src file)
    (values : ∀ l said, l ≠ .allowedOrigins → src.said? file l = some said → (said.value? l.kind).isSome)
    (own : assigned? src.environment .allowedOrigins = some (",".intercalate origins))
    (whole : ∀ o ∈ origins, ',' ∉ o.toList) (text : isScalarText (",".intercalate origins) = false) :
    ∃ s, load src = .ok s ∧
      (origins ≠ [] → ∀ request, (ofOrigins s.server.allowedOrigins).allows request = true ↔
        ∃ o ∈ origins, request = some o) ∧
      (origins = [] → ∀ request, (ofOrigins s.server.allowedOrigins).allows request = true ↔ request = some "") := by
  have said : src.said? file .allowedOrigins = some (.inVariable (",".intercalate origins)) := by
    rw [Sources.said?, own]
    rfl
  have value : Kind.ofText? .texts (",".intercalate origins) =
      some (.texts (if origins = [] then [""] else origins)) := by
    rw [Kind.ofText?, text, ← joinedApart whole]
    rfl
  obtain ⟨s, loads, reads⟩ := Sources.loadsSaid read orderly fun l said' is => by
    by_cases here : l = .allowedOrigins
    · subst here
      cases said.symm.trans is
      exact Option.isSome_of_eq_some value
    · exact values l said' here is
  have listed : s.server.allowedOrigins = if origins = [] then [""] else origins := by
    have each := reads .allowedOrigins
    rw [said, Option.bind_some] at each
    exact Value.texts.inj (each.trans (congrArg (Option.getD · _) value))
  refine ⟨s, loads, fun some request => ?_, fun none request => ?_⟩
  · rw [listed, if_neg some, allowsIff, or_iff_right some]
  · rw [listed, if_pos none, allowsIff]
    simp

end FromVariable

section Samples

def twoOrigins : List (String × String) :=
  [("HUBCAST__SERVER__PORT", "7000"), ("HUBCAST__SERVER__ALLOWED_ORIGINS", "b:,c:")]

theorem twoInVars : ∀ v ∈ twoOrigins, ∀ k, Environment.key? v.1 = some k → Sited k := by
  intro v member k key
  rcases List.mem_pair.mp member with rfl | rfl
  · cases (by decide +kernel : Environment.key? "HUBCAST__SERVER__PORT" = some "server.port").symm.trans key
    exact .inl ⟨.port, by decide⟩
  · cases (by decide +kernel : Environment.key? "HUBCAST__SERVER__ALLOWED_ORIGINS" =
      some "server.allowed_origins").symm.trans key
    exact .inl ⟨.allowedOrigins, by decide⟩

theorem twoOriginsPass : ∃ s, load (serverSources twoOrigins) = .ok s ∧
    ∀ request, (ofOrigins s.server.allowedOrigins).allows request = true ↔
      request = some "b:" ∨ request = some "c:" := by
  have values : ∀ l : Leaf, ((serverSources twoOrigins).said? serverEntries l).all fun said =>
      (said.value? l.kind).isSome := by
    intro l
    cases l <;> decide +kernel
  obtain ⟨s, loads, pass, -⟩ := @followsVariable _ _ ["b:", "c:"] (serverRead twoOrigins)
    ⟨serverInFile, twoInVars⟩ (fun l said _ is => by simpa [is] using values l) (by decide +kernel) (by decide)
    (by decide +kernel)
  exact ⟨s, loads, fun request => by simpa using pass (by simp) request⟩

/- A variable that lists nothing turns every request down that is not from an empty origin, though an empty list of
origins lets all of them through. -/
theorem emptyVariableRefuses :
    isScalarText (",".intercalate []) = false ∧
    load { environment := [("HUBCAST__SERVER__ALLOWED_ORIGINS", ",".intercalate [])] } =
      .ok { server := { allowedOrigins := [""] } } ∧
    (ofOrigins [""]).allows none = false ∧ (ofOrigins [""]).allows (some "b:") = false ∧
    ∀ request, (ofOrigins []).allows request = true :=
  ⟨by decide +kernel, by decide +kernel, rfl, by decide, fun _ => rfl⟩

end Samples

end RelayHub.OriginPolicy
