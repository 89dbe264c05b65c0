import Mathlib.Data.List.Nodup
import ConfigRegistry.Proofs.Token.Ledger

/-!
Who is recognized by the tokens that were issued. However many tokens have the same beginning, each
of them leads to the record of the call that issued it, and goes on doing so; nothing else leads to
a record. Of the hashes it is only asked that none of another token belongs to the text that
somebody presents.
-/
namespace ConfigRegistry

namespace Token

/-- The hash of a token can be compared with any text. -/
theorem exists_verify_hash (t token : String) {salt : List UInt8} (hlow : 8 ≤ salt.length)
    (hhigh : salt.length ≤ 48) : ∃ belongs, verify t (hash token salt) = .ok belongs := by
  simp only [verify, hash, Digest.PasswordHash.parse_render_create _ hlow hhigh]
  exact ⟨_, rfl⟩

/-- Records behind the one that is found change nothing. -/
theorem firstMatch_append_of_ok {token : String} {front : List Token} {record : Token}
    (h : firstMatch token front = .ok record) (rest : List Token) :
    firstMatch token (front ++ rest) = .ok record := by
  induction front with
  | nil => simp [firstMatch] at h
  | cons t front ih =>
    obtain ⟨belongs, hverify, hfound⟩ := bind_eq_ok.mp h
    rw [List.cons_append, firstMatch, hverify, ok_bind]
    cases belongs with
    | true => exact hfound
    | false => exact ih hfound

end Token

namespace Ledger

/-- A record that is found for a token is found whatever records come later. -/
theorem authenticate_append {l : Ledger} {outage : Option Failure} {t : String} {record : Token}
    (h : l.authenticate outage t = .ok record) (later : Ledger) :
    authenticate (l ++ later) outage t = .ok record := by
  unfold authenticate at *
  split at h
  · contradiction
  · next hmark =>
    rw [if_neg hmark]
    cases outage with
    | some f => contradiction
    | none =>
      rw [byPrefix, List.filter_append]
      exact Token.firstMatch_append_of_ok h _

/-- A call that issues a token. The salt has one of the lengths that salts have. -/
structure Grant where
  username : String
  description : String
  draws : Draws
  now : Time.Instant
  saltLow : 8 ≤ draws.salt.length
  saltHigh : draws.salt.length ≤ 48

def Grant.record (g : Grant) : Token := recordOf g.username g.description g.draws g.now

/-- The calls that issued tokens to somebody, each with its token, the oldest first, and the ledger
behind them, which was empty at first. -/
inductive Issued : List (Grant × String) → Ledger → Prop
  | start : Issued [] []
  | issues {log : List (Grant × String)} {l l' : Ledger} {token : String} (h : Issued log l)
      (g : Grant) (hissue : l.issue none g.username g.description g.draws g.now = .ok (token, l')) :
      Issued (log ++ [(g, token)]) l'

/-- Among the hashes of the tokens with the beginning of a text, none belongs to the text but that
of the text itself. -/
def TellsApart (log : List (Grant × String)) (t : String) : Prop :=
  ∀ e ∈ log, Token.lookupPrefix e.2 = Token.lookupPrefix t →
    Token.verify t (Token.hash e.2 e.1.draws.salt) = .ok true → e.2 = t

variable {log : List (Grant × String)} {l : Ledger} {t : String}

theorem Issued.ledger_eq (h : Issued log l) : l = log.map (·.1.record) := by
  induction h with
  | start => rfl
  | issues _ g hissue ih =>
    obtain ⟨_, rfl⟩ := Prod.mk.inj (Except.ok.inj hissue)
    rw [List.map_append, ← ih]
    rfl

theorem Issued.token_eq (h : Issued log l) :
    ∀ e ∈ log, e.2 = Token.ofBytes e.1.draws.token := by
  induction h with
  | start => simp
  | issues _ g hissue ih =>
    obtain ⟨rfl, _⟩ := Prod.mk.inj (Except.ok.inj hissue)
    intro e he
    rcases List.mem_append.mp he with hearlier | hlast
    · exact ih e hearlier
    · rw [List.mem_singleton.mp hlast]

/-- The records with a beginning are those of the tokens with this beginning. -/
theorem Issued.byPrefix_eq (h : Issued log l) (lookup : String) :
    l.byPrefix lookup =
      (log.filter fun e => Token.lookupPrefix e.2 == lookup).map (·.1.record) := by
  have hcandidates : log.filter ((fun t : Token => t.tokenPrefix == lookup) ∘ (·.1.record)) =
      log.filter fun e => Token.lookupPrefix e.2 == lookup := by
    refine List.filter_congr fun e he => ?_
    rw [h.token_eq e he]
    rfl
  rw [h.ledger_eq, byPrefix, List.filter_map, hcandidates]

/-- Among texts told apart, an issued hash verifies for its own text and no other. -/
theorem Issued.verify_eq (h : Issued log l) (htells : TellsApart log t) {e : Grant × String}
    (he : e ∈ log) (hbegins : Token.lookupPrefix e.2 = Token.lookupPrefix t) :
    Token.verify t e.1.record.tokenHash = .ok (e.2 == t) := by
  have hhash : e.1.record.tokenHash = Token.hash e.2 e.1.draws.salt := by
    rw [h.token_eq e he]
    rfl
  rw [hhash]
  by_cases hsame : e.2 = t
  · rw [hsame, Token.verify_hash t e.1.saltLow e.1.saltHigh, beq_self_eq_true]
  · obtain ⟨belongs, hverify⟩ := Token.exists_verify_hash t e.2 e.1.saltLow e.1.saltHigh
    cases belongs with
    | true => exact absurd (htells e he hbegins hverify) hsame
    | false => rw [hverify, beq_eq_false_iff_ne.mpr hsame]

/-- The first candidate whose text is presented is the one that is found. -/
theorem firstMatch_map_record {candidates : List (Grant × String)}
    (h : ∀ e ∈ candidates, Token.verify t e.1.record.tokenHash = .ok (e.2 == t)) :
    Token.firstMatch t (candidates.map (·.1.record)) =
      match candidates.find? (·.2 == t) with
      | some e => .ok e.1.record
      | none => .error Token.invalid := by
  induction candidates with
  | nil => rfl
  | cons e rest ih =>
    rw [List.map_cons, Token.firstMatch, h e List.mem_cons_self, ok_bind, List.find?_cons]
    cases hsame : e.2 == t with
    | true => rfl
    | false => exact ih fun e' he' => h e' (List.mem_cons_of_mem _ he')

/-- A text is recognized by the first call that issued it as a token. -/
theorem Issued.authenticate_eq (h : Issued log l) (htells : TellsApart log t) :
    l.authenticate none t =
      match log.find? (·.2 == t) with
      | some e => .ok e.1.record
      | none => .error Token.invalid := by
  by_cases hmark : t.startsWith Token.mark = true
  · have hcandidates : ∀ e ∈ log.filter fun e =>
        Token.lookupPrefix e.2 == Token.lookupPrefix t,
        Token.verify t e.1.record.tokenHash = .ok (e.2 == t) := by
      intro e he
      obtain ⟨hlog, hbegins⟩ := List.mem_filter.mp he
      exact h.verify_eq htells hlog (beq_iff_eq.mp hbegins)
    have hcandidate : (fun e : Grant × String => decide
        ((Token.lookupPrefix e.2 == Token.lookupPrefix t) = true ∧ (e.2 == t) = true)) =
        (·.2 == t) := by
      funext e
      by_cases hsame : e.2 = t
      · simp [hsame]
      · simp [hsame]
    have hfound := firstMatch_map_record hcandidates
    rw [List.find?_filter, hcandidate] at hfound
    simp only [authenticate, hmark, Bool.not_true, Bool.false_eq_true, if_false, h.byPrefix_eq,
      hfound]
  · have hnone : log.find? (·.2 == t) = none := by
      refine List.find?_eq_none.mpr fun e he hsame => hmark ?_
      rw [← beq_iff_eq.mp hsame, h.token_eq e he]
      exact Token.startsWith_ofBytes _
    simp only [authenticate, hmark, hnone, Bool.not_false, if_true]

/-- A token is recognized by the call that issued it, if no other call issued it too. -/
theorem Issued.authenticate_of_mem (h : Issued log l) (hdistinct : (log.map Prod.snd).Nodup)
    (htells : TellsApart log t) {g : Grant} (hmem : (g, t) ∈ log) :
    l.authenticate none t = .ok g.record := by
  rw [h.authenticate_eq htells]
  cases hfind : log.find? (·.2 == t) with
  | none => exact absurd (List.find?_eq_none.mp hfind _ hmem) (by simp)
  | some e =>
    have htoken : e.2 = t := by simpa using List.find?_some hfind
    have hsame : e = (g, t) :=
      List.inj_on_of_nodup_map hdistinct (List.mem_of_find?_eq_some hfind) hmem htoken
    rw [hsame]

theorem Issued.authenticate_of_not_mem (h : Issued log l) (htells : TellsApart log t)
    (hmem : t ∉ log.map Prod.snd) : l.authenticate none t = .error Token.invalid := by
  have hnone : log.find? (·.2 == t) = none := by
    refine List.find?_eq_none.mpr fun e he hsame => hmem ?_
    exact List.mem_map.mpr ⟨e, he, beq_iff_eq.mp hsame⟩
  rw [h.authenticate_eq htells, hnone]

/-- Whoever presents a token that was issued is recognized by the record of the call that issued it,
with its user and its description, whatever tokens are issued later; whoever presents anything else
is unauthorized. -/
theorem authenticate_outcome (h : Issued log l) (hdistinct : (log.map Prod.snd).Nodup)
    (htells : TellsApart log t) :
    ((∃ record, l.authenticate none t = .ok record) ↔ t ∈ log.map Prod.snd) ∧
    (∀ g, (g, t) ∈ log → ∃ record, l.authenticate none t = .ok record ∧
      record.username = g.username ∧ record.description = g.description) ∧
    (t ∉ log.map Prod.snd → l.authenticate none t = .error (.unauthorized "Invalid token")) ∧
    ∀ later l', Issued (log ++ later) l' → t ∈ log.map Prod.snd →
      l'.authenticate none t = l.authenticate none t := by
  have hissued : ∀ g, (g, t) ∈ log → l.authenticate none t = .ok g.record :=
    fun g hmem => h.authenticate_of_mem hdistinct htells hmem
  refine ⟨⟨?_, ?_⟩, ?_, h.authenticate_of_not_mem htells, ?_⟩
  · rintro ⟨record, hrecord⟩
    by_contra hmem
    rw [h.authenticate_of_not_mem htells hmem] at hrecord
    contradiction
  · intro hmem
    obtain ⟨⟨g, _⟩, hlog, rfl⟩ := List.mem_map.mp hmem
    exact ⟨_, hissued g hlog⟩
  · intro g hmem
    exact ⟨_, hissued g hmem, rfl, rfl⟩
  · intro later l' hlater hmem
    obtain ⟨⟨g, _⟩, hlog, rfl⟩ := List.mem_map.mp hmem
    have hledger : l' = l ++ later.map (·.1.record) := by
      rw [hlater.ledger_eq, h.ledger_eq, List.map_append]
    rw [hledger, hissued g hlog]
    exact authenticate_append (hissued g hlog) _

def evenToken (b : UInt8) : String := Token.ofBytes (List.replicate 20 b)

def evenGrant (username description : String) (b : UInt8) (now : Int) : Grant :=
  ⟨username, description, ⟨List.replicate 20 b, List.replicate 16 b, .ofRandom [b]⟩, ⟨now, 0⟩,
    by simp, by simp⟩

def bobGrant : Grant := evenGrant "bob" "laptop" 0 1700000000
def adaGrant : Grant := evenGrant "ada" "" 1 1700000001

/-- A token that begins like that of the first user. -/
def alikeGrant : Grant :=
  ⟨"bob", "laptop", ⟨List.replicate 19 0 ++ [1], List.replicate 8 2, .ofRandom [2]⟩,
    ⟨1700000002, 0⟩, by decide, by decide⟩

def firstGrants : List (Grant × String) :=
  [(bobGrant, evenToken 0), (adaGrant, evenToken 1)]

def alikeToken : String := Token.ofBytes (List.replicate 19 0 ++ [1])

theorem issued_firstGrants : Issued firstGrants [bobGrant.record, adaGrant.record] :=
  (Issued.start.issues bobGrant rfl).issues adaGrant rfl

theorem issued_alikeGrant : Issued (firstGrants ++ [(alikeGrant, alikeToken)])
    [bobGrant.record, adaGrant.record, alikeGrant.record] :=
  issued_firstGrants.issues alikeGrant rfl

/-- The first user is recognized by the token, also when there is another token with the same
beginning. -/
theorem authenticate_bobGrant :
    Issued firstGrants [bobGrant.record, adaGrant.record] ∧
      (firstGrants.map Prod.snd).Nodup ∧ TellsApart firstGrants (evenToken 0) ∧
      Token.lookupPrefix alikeToken = Token.lookupPrefix (evenToken 0) ∧
      ∃ record, authenticate [bobGrant.record, adaGrant.record, alikeGrant.record] none
          (evenToken 0) = .ok record ∧
        record.username = "bob" ∧ record.description = "laptop" := by
  have hdistinct : (firstGrants.map Prod.snd).Nodup := by decide
  have htells : TellsApart firstGrants (evenToken 0) := by
    intro e he hbegins _
    rcases List.mem_cons.mp he with rfl | he
    · rfl
    · obtain rfl := List.mem_singleton.mp he
      exact absurd hbegins (by decide)
  obtain ⟨_, hfound, _, hkept⟩ := authenticate_outcome issued_firstGrants hdistinct htells
  obtain ⟨record, hrecord, husername, hdescription⟩ := hfound bobGrant List.mem_cons_self
  refine ⟨issued_firstGrants, hdistinct, htells, by decide, record, ?_, husername, hdescription⟩
  rw [hkept _ _ issued_alikeGrant List.mem_cons_self, hrecord]

end Ledger

end ConfigRegistry
