import EvoPlatform.Foundation.Table

/-!
# The table of refresh tokens

Rows are created with a fresh id and a fresh hash and are never changed but for
their time of revocation.
-/

namespace EvoPlatform
namespace Auth

/-- A row of the `refresh_tokens` table. -/
structure RefreshToken where
  id : String
  userId : String
  tokenHash : String
  appClientId : Option String
  expiresAt : Nat
  revokedAt : Option Nat
  deriving DecidableEq

/-- Neither revoked nor expired. -/
def RefreshToken.live (token : RefreshToken) (now : Nat) : Bool :=
  token.revokedAt.isNone && !(token.expiresAt < now)

/-- The `refresh_tokens` table. -/
structure Tokens where
  rows : List RefreshToken
  idsNodup : (rows.map RefreshToken.id).Nodup
  hashesNodup : (rows.map RefreshToken.tokenHash).Nodup

namespace Tokens

variable (tokens : Tokens)

/-- An empty table. -/
def empty : Tokens := ⟨[], List.nodup_nil, List.nodup_nil⟩

/-- The table by primary key. -/
def byId : Table RefreshToken.id := ⟨tokens.rows, tokens.idsNodup⟩

/-- The table by its unique index. -/
def byHash : Table RefreshToken.tokenHash := ⟨tokens.rows, tokens.hashesNodup⟩

/-- The row after its revocation, if it is to be revoked. -/
def revokedIf (doomed : RefreshToken → Bool) (now : Nat)
    (token : RefreshToken) : RefreshToken :=
  if doomed token then { token with revokedAt := some now } else token

section Columns

variable (doomed : RefreshToken → Bool) (now : Nat) (token : RefreshToken)

@[simp] theorem id_revokedIf : (revokedIf doomed now token).id = token.id := by
  unfold revokedIf
  split <;> rfl

@[simp] theorem tokenHash_revokedIf :
    (revokedIf doomed now token).tokenHash = token.tokenHash := by
  unfold revokedIf
  split <;> rfl

@[simp] theorem userId_revokedIf :
    (revokedIf doomed now token).userId = token.userId := by
  unfold revokedIf
  split <;> rfl

/-- A revocation is never taken back. -/
theorem revokedAt_of_revokedIf
    (unrevoked : (revokedIf doomed now token).revokedAt = none) :
    token.revokedAt = none ∧ doomed token = false := by
  unfold revokedIf at unrevoked
  split at unrevoked
  · contradiction
  · rename_i spared
    exact ⟨unrevoked, by simpa using spared⟩

end Columns

/-- Set `revokedAt` on the rows that satisfy a predicate. -/
def revoke (doomed : RefreshToken → Bool) (now : Nat) : Tokens where
  rows := tokens.rows.map (revokedIf doomed now)
  idsNodup := by
    have same : RefreshToken.id ∘ revokedIf doomed now = RefreshToken.id := by
      funext token
      exact id_revokedIf doomed now token
    rw [List.map_map, same]
    exact tokens.idsNodup
  hashesNodup := by
    have same : RefreshToken.tokenHash ∘ revokedIf doomed now =
        RefreshToken.tokenHash := by
      funext token
      exact tokenHash_revokedIf doomed now token
    rw [List.map_map, same]
    exact tokens.hashesNodup

/-- `refreshToken.update` by id, which throws when there is no such row. -/
def revokeById (id : String) (now : Nat) : Option Tokens :=
  (tokens.byId.find? id).map fun _ =>
    tokens.revoke (fun token => token.id = id) now

/-- The rows of a user that `updateMany` revokes. -/
def ofUser (userId : String) (token : RefreshToken) : Bool :=
  token.userId = userId && token.revokedAt.isNone

/-- The row of a hash that `updateMany` revokes. -/
def ofHash (tokenHash : String) (token : RefreshToken) : Bool :=
  token.tokenHash = tokenHash && token.revokedAt.isNone

/-- `refreshToken.create`, which throws when the id or the hash is taken. -/
def create (token : RefreshToken) : Option Tokens :=
  if fresh : token.id ∉ tokens.rows.map RefreshToken.id ∧
      token.tokenHash ∉ tokens.rows.map RefreshToken.tokenHash then
    some {
      rows := tokens.rows ++ [token]
      idsNodup := by
        rw [List.map_append]
        exact List.nodup_append.mpr ⟨tokens.idsNodup, List.nodup_singleton _,
          fun id present other isNew same =>
            fresh.1 (List.mem_singleton.mp isNew ▸ same ▸ present)⟩
      hashesNodup := by
        rw [List.map_append]
        exact List.nodup_append.mpr ⟨tokens.hashesNodup,
          List.nodup_singleton _, fun hash present other isNew same =>
            fresh.2 (List.mem_singleton.mp isNew ▸ same ▸ present)⟩ }
  else none

/-- Delete the rows of some users. -/
def eraseOf (doomed : String → Bool) : Tokens where
  rows := tokens.rows.filter fun token => !doomed token.userId
  idsNodup := tokens.idsNodup.sublist (List.filter_sublist.map _)
  hashesNodup := tokens.hashesNodup.sublist (List.filter_sublist.map _)

section Lookup

variable {tokens}

/-- Rows with the same id are the same. -/
theorem eq_of_id
    {left right : RefreshToken}
    (leftPresent : left ∈ tokens.rows)
    (rightPresent : right ∈ tokens.rows)
    (same : left.id = right.id) :
    left = right :=
  List.inj_on_of_nodup_map tokens.idsNodup leftPresent rightPresent same

/-- Rows with the same hash are the same. -/
theorem eq_of_hash
    {left right : RefreshToken}
    (leftPresent : left ∈ tokens.rows)
    (rightPresent : right ∈ tokens.rows)
    (same : left.tokenHash = right.tokenHash) :
    left = right :=
  List.inj_on_of_nodup_map tokens.hashesNodup leftPresent rightPresent same

theorem mem_revoke_iff
    {doomed : RefreshToken → Bool} {now : Nat} {token : RefreshToken} :
    token ∈ (tokens.revoke doomed now).rows ↔
      ∃ old ∈ tokens.rows, revokedIf doomed now old = token :=
  List.mem_map

/-- A row that is unrevoked after a revocation was there before, and was not
meant. -/
theorem mem_of_mem_revoke
    {doomed : RefreshToken → Bool} {now : Nat} {token : RefreshToken}
    (present : token ∈ (tokens.revoke doomed now).rows)
    (unrevoked : token.revokedAt = none) :
    token ∈ tokens.rows ∧ doomed token = false := by
  obtain ⟨old, oldPresent, rfl⟩ := mem_revoke_iff.mp present
  obtain ⟨_, spared⟩ := revokedAt_of_revokedIf doomed now old unrevoked
  have same : revokedIf doomed now old = old := by simp [revokedIf, spared]
  rw [same]
  exact ⟨oldPresent, spared⟩

/-- A row that is revoked in the table stays so. -/
theorem revokedAt_of_mem_revoke
    {doomed : RefreshToken → Bool} {now : Nat} {token : RefreshToken}
    (present : token ∈ (tokens.revoke doomed now).rows) :
    ∃ old ∈ tokens.rows, old.id = token.id ∧
      old.tokenHash = token.tokenHash ∧ old.userId = token.userId ∧
      (token = old ∨ doomed old = true ∧ token.revokedAt = some now) := by
  obtain ⟨old, oldPresent, rfl⟩ := mem_revoke_iff.mp present
  refine ⟨old, oldPresent, by simp, by simp, by simp, ?_⟩
  unfold revokedIf
  split
  · rename_i meant
    exact Or.inr ⟨meant, rfl⟩
  · exact Or.inl rfl

/-- A revoked row is still there, revoked. -/
theorem revoked_of_revoke
    (doomed : RefreshToken → Bool) (now : Nat) {token : RefreshToken}
    (present : token ∈ tokens.rows)
    (revoked : token.revokedAt ≠ none ∨ doomed token = true) :
    ∃ kept ∈ (tokens.revoke doomed now).rows, kept.id = token.id ∧
      kept.tokenHash = token.tokenHash ∧ kept.revokedAt ≠ none := by
  refine ⟨revokedIf doomed now token, mem_revoke_iff.mpr ⟨token, present, rfl⟩,
    by simp, by simp, ?_⟩
  intro unrevoked
  obtain ⟨before, spared⟩ := revokedAt_of_revokedIf doomed now token unrevoked
  simp [before, spared] at revoked

/-- A revocation by id has found its row. -/
theorem of_revokeById
    {id : String} {now : Nat} {after : Tokens}
    (revoked : tokens.revokeById id now = some after) :
    (∃ row ∈ tokens.rows, row.id = id) ∧
      after = tokens.revoke (fun token => token.id = id) now := by
  simp only [revokeById, Option.map_eq_some_iff] at revoked
  obtain ⟨row, found, rfl⟩ := revoked
  exact ⟨⟨row, tokens.byId.mem_of_find? found,
    tokens.byId.key_of_find? found⟩, rfl⟩

/-- Every row is still there, with its id, its hash and its user. -/
def Extends (tokens after : Tokens) : Prop :=
  ∀ row ∈ tokens.rows, ∃ kept ∈ after.rows, kept.id = row.id ∧
    kept.tokenHash = row.tokenHash ∧ kept.userId = row.userId

theorem Extends.refl (tokens : Tokens) : tokens.Extends tokens :=
  fun row present => ⟨row, present, rfl, rfl, rfl⟩

theorem extends_revoke (doomed : RefreshToken → Bool) (now : Nat) :
    tokens.Extends (tokens.revoke doomed now) :=
  fun row present => ⟨revokedIf doomed now row,
    mem_revoke_iff.mpr ⟨row, present, rfl⟩, by simp, by simp, by simp⟩

/-- A creation appends a row whose id and hash are new. -/
structure Creates (tokens created : Tokens) (token : RefreshToken) : Prop where
  rows : created.rows = tokens.rows ++ [token]
  newId : ∀ other ∈ tokens.rows, other.id ≠ token.id
  newHash : ∀ other ∈ tokens.rows, other.tokenHash ≠ token.tokenHash

theorem creates_of_create
    {created : Tokens} {token : RefreshToken}
    (creation : tokens.create token = some created) :
    Creates tokens created token := by
  unfold create at creation
  split at creation
  · rename_i fresh
    simp only [Option.some.injEq] at creation
    subst creation
    refine ⟨rfl, ?_, ?_⟩
    · intro other present same
      exact fresh.1 (same ▸ List.mem_map_of_mem present)
    · intro other present same
      exact fresh.2 (same ▸ List.mem_map_of_mem present)
  · contradiction

/-- A row with a new id and a new hash can be created. -/
theorem create_of_new
    {token : RefreshToken}
    (newId : ∀ other ∈ tokens.rows, other.id ≠ token.id)
    (newHash : ∀ other ∈ tokens.rows, other.tokenHash ≠ token.tokenHash) :
    ∃ created, tokens.create token = some created := by
  have fresh : token.id ∉ tokens.rows.map RefreshToken.id ∧
      token.tokenHash ∉ tokens.rows.map RefreshToken.tokenHash := by
    simp only [List.mem_map, not_exists, not_and]
    exact ⟨newId, newHash⟩
  unfold create
  rw [dif_pos fresh]
  exact ⟨_, rfl⟩

theorem Creates.mem_iff
    {created : Tokens} {token other : RefreshToken}
    (creates : Creates tokens created token) :
    other ∈ created.rows ↔ other ∈ tokens.rows ∨ other = token := by
  rw [creates.rows, List.mem_append, List.mem_singleton]

theorem Creates.extends
    {created : Tokens} {token : RefreshToken}
    (creates : Creates tokens created token) :
    tokens.Extends created :=
  fun row present =>
    ⟨row, creates.mem_iff.mpr (Or.inl present), rfl, rfl, rfl⟩

end Lookup

end Tokens

end Auth
end EvoPlatform
