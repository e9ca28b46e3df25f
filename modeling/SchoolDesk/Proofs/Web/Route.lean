import SchoolDesk.Web.Route

/-!
# The path of a route

Every route has one path, and that path alone leads to it.  `Route.path` writes the path
of a route, and `ofPath?_eq_some_iff` says that reading a path undoes it.  Two kinds of
route bound what they hold: the name of an activity has no slash in it, and a path to a
file that goes on goes on with a slash.
-/

namespace SchoolDesk.Web.Route

/-- The path to a route. -/
def path : Route → Bytes
  | home => word "/"
  | activities => word "/activities"
  | signup segment => word "/activities/" ++ segment ++ word "/signup"
  | token => word "/token"
  | me => word "/users/me"
  | calculate => word "/calculate"
  | files rest => word "/static" ++ rest

/-- What a route holds can stand in its path. -/
def Fits : Route → Prop
  | signup segment => slash ∉ segment
  | files rest => ∀ b ∈ rest.head?, b = slash
  | _ => True

/-- The parts of a path have no slash in them. -/
theorem slash_not_mem_of_mem_splitOn {p part : Bytes} (h : part ∈ p.splitOn slash) :
    slash ∉ part := by
  induction p generalizing part with
  | nil =>
      rw [List.splitOn_nil, List.mem_singleton] at h
      simp [h]
  | cons b p ih =>
      rw [List.splitOn_cons_eq_if_modifyHead] at h
      by_cases hb : (b == slash) = true
      · rw [if_pos hb] at h
        rcases List.mem_cons.mp h with rfl | h
        · simp
        · exact ih h
      · rw [if_neg hb] at h
        cases hs : p.splitOn slash with
        | nil => exact absurd hs (List.splitOn_ne_nil slash p)
        | cons first rest =>
            rw [hs, List.modifyHead_cons] at h
            rcases List.mem_cons.mp h with rfl | h
            · have other : slash ∉ first := ih (by rw [hs]; exact .head _)
              rw [List.mem_cons, not_or]
              exact ⟨fun he => hb (by simp [he]), other⟩
            · exact ih (by rw [hs]; exact .tail _ h)

theorem intercalate_slash (first : Bytes) (parts : List Bytes) :
    [slash].intercalate (first :: parts) = first ++ parts.flatMap fun part => slash :: part := by
  induction parts generalizing first with
  | nil => simp
  | cons part parts ih => rw [List.intercalate_cons_cons, ih]; simp

/-- The parts of a path, each with the slash in front of it, are the path again. -/
theorem eq_flatMap_of_splitOn {p : Bytes} {parts : List Bytes}
    (h : p.splitOn slash = [] :: parts) : p = parts.flatMap fun part => slash :: part := by
  have joined : [slash].intercalate (p.splitOn slash) = p := List.intercalate_splitOn slash
  rw [h, intercalate_slash] at joined
  exact joined.symm

/-- Other than to files, a route is led to by the parts of its path. -/
theorem eq_path_of_ofSegments? {parts : List Bytes} {route : Route}
    (h : ofSegments? parts = some route) (free : ∀ part ∈ parts, slash ∉ part) :
    (parts.flatMap fun part => slash :: part) = route.path ∧ route.Fits := by
  unfold ofSegments? at h
  split at h
  · next a =>
      split at h
      · next ha =>
          cases h
          exact ⟨by rw [ha]; rfl, trivial⟩
      · split at h
        · next ha =>
            cases h
            exact ⟨by rw [ha]; decide, trivial⟩
        · split at h
          · next ha =>
              cases h
              exact ⟨by rw [ha]; decide, trivial⟩
          · split at h
            · next ha =>
                cases h
                exact ⟨by rw [ha]; decide, trivial⟩
            · cases h
  · next a b =>
      split at h
      · next hab =>
          cases h
          exact ⟨by rw [hab.1, hab.2]; decide, trivial⟩
      · cases h
  · next a b c =>
      split at h
      · next hac =>
          cases h
          have front : word "/activities/" = slash :: (word "activities" ++ [slash]) := by decide
          have back : word "/signup" = slash :: word "signup" := by decide
          exact ⟨by simp [hac.1, hac.2, path, front, back], free b (by simp)⟩
      · cases h
  · cases h

/-- A route is where its path leads. -/
theorem ofPath?_path {route : Route} (h : route.Fits) : ofPath? route.path = some route := by
  cases route with
  | home => decide
  | activities => decide
  | signup segment => exact ofPath?_signup segment h
  | token => decide
  | me => decide
  | calculate => decide
  | files rest =>
      have front : word "/static" = slash :: word "static" := by decide
      have parts : ∃ more, (path (.files rest)).splitOn slash = [] :: word "static" :: more := by
        rw [path, front]
        cases rest with
        | nil => exact ⟨[], by decide⟩
        | cons b rest =>
            obtain rfl : b = slash := h b rfl
            refine ⟨rest.splitOn slash, ?_⟩
            rw [List.cons_append, ← List.nil_append (slash :: _),
              List.splitOn_append_cons_self_of_not_mem (by simp),
              List.splitOn_append_cons_self_of_not_mem (by decide)]
      obtain ⟨more, parts⟩ := parts
      rw [ofPath?, parts]
      simp [path]

/-- A path leads to a route if it is the path of the route, and only then. -/
theorem ofPath?_eq_some_iff {p : Bytes} {route : Route} :
    ofPath? p = some route ↔ p = route.path ∧ route.Fits := by
  constructor
  · intro h
    rw [ofPath?] at h
    split at h
    · next first rest hs =>
        have free (part : Bytes) (hp : part ∈ first :: rest) : slash ∉ part :=
          slash_not_mem_of_mem_splitOn (by rw [hs]; exact .tail _ hp)
        have joined := eq_flatMap_of_splitOn hs
        split at h
        · next hf =>
            cases h
            have front : word "/static" = slash :: word "static" := by decide
            have below : p = word "/static" ++ rest.flatMap fun part => slash :: part := by
              rw [joined, List.flatMap_cons, hf, front]
            have dropped : p.drop (word "/static").length =
                rest.flatMap fun part => slash :: part := by
              rw [below, List.drop_left]
            rw [dropped]
            refine ⟨below, fun b hb => ?_⟩
            cases rest with
            | nil => cases hb
            | cons part rest =>
                cases hb
                rfl
        · rw [joined]
          exact eq_path_of_ofSegments? h free
    · cases h
  · rintro ⟨rfl, fits⟩
    exact ofPath?_path fits

end SchoolDesk.Web.Route
