import Mathlib.Data.List.Basic
import OpenPubkey.Cosigner.AuthCosigner

set_option autoImplicit false

namespace OpenPubkey.Cosigner

theorem appendStrings_eq_ok (audList : List String) (xs : List Json) (r : List String) :
    appendStrings audList xs = .ok r ↔ ∃ l : List String, xs = l.map .str ∧ r = audList ++ l := by
  induction xs generalizing audList with
  | nil => simp [appendStrings, eq_comm]
  | cons v rest ih =>
    cases member : v.asString? with
    | none =>
      simp only [appendStrings, member, Go.assert, Go.crash_bind, Go.crash_ne_ok, false_iff, not_exists, not_and]
      rintro (_ | ⟨s, l⟩) same <;> simp only [List.map_nil, List.map_cons, reduceCtorEq, List.cons.injEq] at same
      simp [same.1, Json.asString?] at member
    | some s =>
      simp only [Json.asString?_eq_some] at member
      subst member
      simp only [appendStrings, Json.asString?, Go.assert, Go.ok_bind, ih]
      constructor
      · rintro ⟨l, rfl, rfl⟩
        exact ⟨s :: l, rfl, by simp⟩
      · rintro ⟨_ | ⟨s', l⟩, same, rfl⟩ <;> simp only [List.map_nil, List.map_cons, reduceCtorEq,
          List.cons.injEq, Json.str.injEq] at same
        obtain ⟨rfl, rfl⟩ := same
        exact ⟨l, rfl, by simp⟩

theorem appendStrings_panics (audList : List String) (xs : List Json) :
    Go.Panics (appendStrings audList xs) ↔ ∃ x ∈ xs, x.asString? = none := by
  induction xs generalizing audList with
  | nil => simp [appendStrings, Go.Panics]
  | cons v rest ih =>
    cases member : v.asString? <;> simp [appendStrings, member, Go.assert, ih]

def StoresAudience (aud : Json) (stored : String) : Prop :=
  aud = .str stored ∨ ∃ l : List String, aud = .arr (l.map .str) ∧ stored = String.intercalate "," l

theorem newAuthState_eq_ok (pkt : PKToken) (ruri nonce : String) (authState : AuthState) :
    newAuthState pkt ruri nonce = .ok authState ↔
      ∃ claims, unmarshalStruct ["iss", "sub", "email"] pkt.payload = .ok claims ∧
        ∃ aud, StoresAudience (fieldAny claims "aud") aud ∧
        authState =
          { pkt, issuer := fieldString claims "iss", aud, sub := fieldString claims "sub",
            username := fieldString claims "email",
            displayName := ((fieldString claims "email").splitOn "@").headD "", redirectURI := ruri, nonce,
            sigIssued := false } := by
  simp only [newAuthState, Go.bind_eq_ok, Go.wrap_eq_ok, Go.pure_eq, Except.ok.injEq]
  refine exists_congr fun claims => and_congr_right fun _ => exists_congr fun aud => and_congr ?_ eq_comm
  unfold StoresAudience
  generalize fieldAny claims "aud" = v
  cases v <;> simp [Go.fail, appendStrings_eq_ok, @eq_comm _ aud]

theorem newAuthState_panics (pkt : PKToken) (ruri nonce : String) :
    Go.Panics (newAuthState pkt ruri nonce) ↔
      ∃ claims, unmarshalStruct ["iss", "sub", "email"] pkt.payload = .ok claims ∧
        ∃ xs, fieldAny claims "aud" = .arr xs ∧ ∃ x ∈ xs, x.asString? = none := by
  simp only [newAuthState, Go.bind_panics_iff, Go.wrap_panics_iff, Go.wrap_eq_ok, unmarshalStruct_not_panics,
    false_or]
  refine exists_congr fun claims => and_congr_right fun _ => ?_
  generalize fieldAny claims "aud" = v
  cases v <;> simp [appendStrings_panics]

theorem intercalate_go_data (acc s : String) (as : List String) :
    (String.intercalate.go acc s as).data = acc.data ++ (as.map fun a => s.data ++ a.data).flatten := by
  induction as generalizing acc with
  | nil => simp [String.intercalate.go]
  | cons a as ih => simp [String.intercalate.go, ih]

theorem flatten_intersperse_cons {α : Type} (sep x : List α) (xs : List (List α)) :
    (List.intersperse sep (x :: xs)).flatten = x ++ (xs.map (sep ++ ·)).flatten := by
  induction xs generalizing x with
  | nil => simp
  | cons y ys ih => simp [ih]

theorem intercalate_data (s : String) (l : List String) :
    (String.intercalate s l).data = s.data.intercalate (l.map String.data) := by
  cases l with
  | nil => rfl
  | cons a as =>
    simp [String.intercalate, intercalate_go_data, List.intercalate, flatten_intersperse_cons, Function.comp_def]

theorem intercalate_comma_injective (l l' : List String) (nonempty : l ≠ []) (nonempty' : l' ≠ [])
    (noComma : ∀ s ∈ l, ',' ∉ s.data) (noComma' : ∀ s ∈ l', ',' ∉ s.data)
    (same : String.intercalate "," l = String.intercalate "," l') : l = l' := by
  have data := congrArg String.data same
  rw [intercalate_data, intercalate_data, show ",".data = [','] from rfl] at data
  have split := List.splitOn_intercalate (l.map String.data) ',' (by simpa using noComma) (by simpa using nonempty)
  rw [data, List.splitOn_intercalate (l'.map String.data) ',' (by simpa using noComma')
    (by simpa using nonempty')] at split
  exact (List.map_injective_iff.2 (fun _ _ h => String.ext h) split).symm

theorem storesAudience_str (t aud : String) (stored : StoresAudience (.str t) aud) : aud = t := by
  rcases stored with same | ⟨l, different, -⟩
  · exact (Json.str.inj same).symm
  · cases different

theorem storesAudience_arr (l : List String) (aud : String) (stored : StoresAudience (.arr (l.map .str)) aud) :
    aud = String.intercalate "," l := by
  rcases stored with different | ⟨l', same, rfl⟩
  · cases different
  · rw [List.map_injective_iff.2 (fun _ _ h => Json.str.inj h) (Json.arr.inj same)]

def audiencePkt (aud : Json) : PKToken :=
  { payload := some (.obj [("iss", .str "https://accounts.example.com"), ("aud", aud), ("sub", .str "alice")])
    op := default, cic := default, cos := none }

theorem newAuthState_userKey_injective (pkt pkt' : PKToken) (ruri ruri' nonce nonce' : String)
    (authState authState' : AuthState)
    (built : newAuthState pkt ruri nonce = .ok authState) (built' : newAuthState pkt' ruri' nonce' = .ok authState')
    (same : authState.userKey = authState'.userKey) :
    ∃ claims claims', unmarshalStruct ["iss", "sub", "email"] pkt.payload = .ok claims ∧
      unmarshalStruct ["iss", "sub", "email"] pkt'.payload = .ok claims' ∧
      fieldString claims "iss" = fieldString claims' "iss" ∧ fieldString claims "sub" = fieldString claims' "sub" ∧
      (∀ t t', fieldAny claims "aud" = .str t → fieldAny claims' "aud" = .str t' → t = t') ∧
      (∀ l l' : List String, fieldAny claims "aud" = .arr (l.map .str) → fieldAny claims' "aud" = .arr (l'.map .str) →
        l ≠ [] → l' ≠ [] → (∀ s ∈ l, ',' ∉ s.data) → (∀ s ∈ l', ',' ∉ s.data) → l = l') := by
  obtain ⟨claims, parsed, aud, stored, rfl⟩ := (newAuthState_eq_ok pkt ruri nonce authState).1 built
  obtain ⟨claims', parsed', aud', stored', rfl⟩ := (newAuthState_eq_ok pkt' ruri' nonce' authState').1 built'
  simp only [AuthState.userKey, UserKey.mk.injEq] at same
  obtain ⟨iss, audSame, sub⟩ := same
  refine ⟨claims, claims', parsed, parsed', iss, sub, fun t t' isStr isStr' => ?_,
    fun l l' isArr isArr' nonempty nonempty' noComma noComma' => ?_⟩
  · rw [isStr] at stored
    rw [isStr'] at stored'
    rw [← storesAudience_str t aud stored, ← storesAudience_str t' aud' stored', audSame]
  · rw [isArr] at stored
    rw [isArr'] at stored'
    rw [storesAudience_arr l aud stored, storesAudience_arr l' aud' stored'] at audSame
    exact intercalate_comma_injective l l' nonempty nonempty' noComma noComma' audSame

def clientPkt : PKToken := audiencePkt (.arr [.str "client"])

def clientEmailPkt : PKToken :=
  { clientPkt with
    payload := some (.obj [("iss", .str "https://accounts.example.com"), ("aud", .arr [.str "client"]),
      ("sub", .str "alice"), ("email", .str "alice@example.com")]) }

def clientState : AuthState :=
  { pkt := clientPkt, issuer := "https://accounts.example.com", aud := "client", sub := "alice",
    username := "", displayName := "", redirectURI := "", nonce := "", sigIssued := false }

def clientEmailState : AuthState :=
  { pkt := clientEmailPkt, issuer := "https://accounts.example.com", aud := "client", sub := "alice",
    username := "alice@example.com", displayName := "alice", redirectURI := "http://localhost:3000/mfacallback",
    nonce := "n1", sigIssued := false }

unseal String.splitOnAux in
theorem clientState_userKey_injective :
    newAuthState clientPkt "" "" = .ok clientState ∧
    newAuthState clientEmailPkt "http://localhost:3000/mfacallback" "n1" = .ok clientEmailState ∧
    clientState.userKey = clientEmailState.userKey ∧
    ∃ claims claims', unmarshalStruct ["iss", "sub", "email"] clientPkt.payload = .ok claims ∧
      unmarshalStruct ["iss", "sub", "email"] clientEmailPkt.payload = .ok claims' ∧
      fieldString claims "iss" = fieldString claims' "iss" ∧ fieldString claims "sub" = fieldString claims' "sub" ∧
      (∀ t t', fieldAny claims "aud" = .str t → fieldAny claims' "aud" = .str t' → t = t') ∧
      (∀ l l' : List String, fieldAny claims "aud" = .arr (l.map .str) → fieldAny claims' "aud" = .arr (l'.map .str) →
        l ≠ [] → l' ≠ [] → (∀ s ∈ l, ',' ∉ s.data) → (∀ s ∈ l', ',' ∉ s.data) → l = l') :=
  have built : newAuthState clientPkt "" "" = .ok clientState := rfl
  have built' : newAuthState clientEmailPkt "http://localhost:3000/mfacallback" "n1" = .ok clientEmailState := rfl
  ⟨built, built', rfl, newAuthState_userKey_injective _ _ "" "http://localhost:3000/mfacallback" "" "n1" clientState
    clientEmailState built built' rfl⟩

theorem userKey_conflates_audiences :
    (newAuthState (audiencePkt (.str "a,b")) "" "").map AuthState.userKey =
      .ok ⟨"https://accounts.example.com", "a,b", "alice"⟩ ∧
    (newAuthState (audiencePkt (.arr [.str "a", .str "b"])) "" "").map AuthState.userKey =
      .ok ⟨"https://accounts.example.com", "a,b", "alice"⟩ ∧
    (newAuthState (audiencePkt (.arr [.str "a,b"])) "" "").map AuthState.userKey =
      .ok ⟨"https://accounts.example.com", "a,b", "alice"⟩ := by
  decide

end OpenPubkey.Cosigner
