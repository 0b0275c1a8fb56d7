import Parley.Proofs.Url.Parts
import Parley.Settings.Endpoint

/-!
# Credentials in the URL of an endpoint

The token and the session come back from the query of the URL that is dialled, behind the pairs that
the path of the endpoint has there, and nothing else of the URL changes, neither in its parts nor in
its text.
-/

namespace Parley.Settings

open Url (Parts)

/-- The pairs that credentials add to a query. -/
def credentials (token : String) (session : Option String) : List (String × String) :=
  match session with
  | none => [("token", token)]
  | some session =>
      if session.isEmpty then [("token", token)] else [("token", token), ("sessionId", session)]

theorem authorizedUrl_eq (base : Parts) (token : String) (session : Option String) :
    authorizedUrl base token session = base.appendPairs (credentials token session) := by
  cases session with
  | none =>
      rfl
  | some session =>
      rw [authorizedUrl, credentials]
      cases empty : session.isEmpty with
      | true =>
          rw [Option.filter_some_neg (by simp [empty])]
          rfl
      | false =>
          rw [Option.filter_some_pos (by simp [empty])]
          rfl

theorem exists_query_authorizedUrl (base : Parts) (token : String) (session : Option String) :
    ∃ query, (authorizedUrl base token session).query = some query := by
  unfold authorizedUrl
  dsimp only
  split
  · exact ⟨_, rfl⟩
  · exact ⟨_, rfl⟩

namespace Endpoint

theorem settled_of_target {endpoint : Endpoint} {base : Parts}
    (makes : endpoint.target = .ok base) : base.Settled := by
  unfold target at makes
  split at makes
  · cases makes
  · split at makes
    · cases makes
    · split at makes
      next url reads =>
        cases makes
        exact Parts.settled_of_read reads
      · cases makes

/-- What a reader of a query makes of a pair, if its bytes write texts. -/
def readTexts (pair : List UInt8 × List UInt8) :
    Except Text.Utf8.Misread (List Char) × Except Text.Utf8.Misread (List Char) :=
  (Text.Utf8.decode pair.1, Text.Utf8.decode pair.2)

/-- Whatever characters the token and the session have, the URL that is dialled has the pairs of the
endpoint's URL in its query, then those of the credentials, and no others. Its query is plain ASCII
in which nothing has to be encoded, the other parts are those of the endpoint's URL, and a reader of
the text finds the query and the fragment where the parts have them. -/
theorem credentials_survive {endpoint : Endpoint} {base : Parts}
    (makes : endpoint.target = .ok base) (token : String) (session : Option String) :
    ∃ query own, (authorizedUrl base token session).query = some query ∧
      Url.Form.pairs query = Url.Form.pairs (base.query.getD []) ++ own ∧
      own.map readTexts =
        (credentials token session).map (fun pair => (.ok pair.1.toList, .ok pair.2.toList)) ∧
      (∀ character ∈ query, character.toNat < 128 ∧ Url.querySet character = false) ∧
      { authorizedUrl base token session with query := base.query } = base ∧
      Url.sections (authorizedUrl base token session).render.toList =
        ((Url.sections base.render.toList).1, some query, base.fragment) := by
  have settled := settled_of_target makes
  have settledAfter := settled.appendPairs (credentials token session)
  have pairs := base.pairs_appendPairs (credentials token session)
  have elsewhere := base.appendPairs_elsewhere (credentials token session)
  obtain ⟨query, held⟩ := exists_query_authorizedUrl base token session
  rw [authorizedUrl_eq] at held ⊢
  rw [held] at pairs
  refine ⟨query, _, held, pairs, ?_, ?_, elsewhere, ?_⟩
  · rw [List.map_map]
    refine List.map_congr_left fun pair _ => ?_
    rw [Function.comp_apply, readTexts, Text.Utf8.decode_encode, Text.Utf8.decode_encode]
  · intro character member
    have unreserved := settledAfter.query query held character member
    exact ⟨Url.toNat_lt_of_querySet unreserved, unreserved⟩
  · have front : (base.appendPairs (credentials token session)).front = base.front := by
      have same := congrArg Parts.front elsewhere
      exact same
    have fragment : (base.appendPairs (credentials token session)).fragment = base.fragment := by
      have same := congrArg Parts.fragment elsewhere
      exact same
    rw [settledAfter.sections_render, settled.sections_render, held, front, fragment]

/-- An endpoint whose path has a query and a fragment. -/
def roomEndpoint : Endpoint :=
  { standard with path := "/api/chat?room=a%20b&&quiet#top" }

def roomUrl : Parts where
  scheme := .plain
  username := []
  password := []
  host := .ipv4 0x7F000001
  port := some 9375
  path := ["api".toList, "chat".toList]
  query := some "room=a%20b&&quiet".toList
  fragment := some "top".toList

theorem target_roomEndpoint : roomEndpoint.target = .ok roomUrl := by
  rfl

theorem credentials_survive_beside_room :
    roomEndpoint.target = .ok roomUrl ∧
      ∃ query own,
        (authorizedUrl roomUrl "a b&c=+%41#\n€" (some "s?1")).query = some query ∧
          Url.Form.pairs query = Url.Form.pairs (roomUrl.query.getD []) ++ own ∧
          own.map readTexts =
            [(.ok "token".toList, .ok "a b&c=+%41#\n€".toList),
              (.ok "sessionId".toList, .ok "s?1".toList)] ∧
          (∀ character ∈ query, character.toNat < 128 ∧ Url.querySet character = false) ∧
          { authorizedUrl roomUrl "a b&c=+%41#\n€" (some "s?1") with query := roomUrl.query } =
            roomUrl ∧
          Url.sections (authorizedUrl roomUrl "a b&c=+%41#\n€" (some "s?1")).render.toList =
            ((Url.sections roomUrl.render.toList).1, some query, roomUrl.fragment) :=
  ⟨target_roomEndpoint, credentials_survive target_roomEndpoint "a b&c=+%41#\n€" (some "s?1")⟩

end Endpoint

end Parley.Settings
