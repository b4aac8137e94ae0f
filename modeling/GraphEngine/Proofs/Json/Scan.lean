import GraphEngine.Proofs.Json.Number

/-!
The compact text of a value is scanned as the tokens of the value.

A number is complete only when the next character is seen, so the statement about a value says
which tokens the lexer has once something follows that belongs to no number.
-/
namespace GraphEngine.Json

mutual

def tokens : Json → List Token
  | .null => [.null]
  | .boolean value => [.boolean value]
  | .number value => [.number value.literal]
  | .string text => [.string (some text)]
  | .array [] => [.openArray, .closeArray]
  | .array (item :: rest) => .openArray :: item.tokens ++ itemTokens rest ++ [.closeArray]
  | .object [] => [.openObject, .closeObject]
  | .object ((name, value) :: rest) =>
      .openObject :: .string (some name) :: .colon :: value.tokens ++ memberTokens rest ++
        [.closeObject]

/-- The tokens of items that follow another. -/
def itemTokens : List Json → List Token
  | [] => []
  | item :: rest => .comma :: item.tokens ++ itemTokens rest

def memberTokens : List (String × Json) → List Token
  | [] => []
  | (name, value) :: rest =>
      .comma :: .string (some name) :: .colon :: value.tokens ++ memberTokens rest

end

namespace Token.Lexer

/-- The lexer after a text. -/
def after (text : String) : Lexer := text.toList.foldl feed start

theorem after_push (text : String) (c : Char) : after (text.push c) = (after text).feed c := by
  rw [after, String.toList_push, List.foldl_append]
  rfl

theorem after_append (text more : String) :
    after (text ++ more) = more.toList.foldl feed (after text) := by
  rw [after, String.toList_append, List.foldl_append]
  rfl

/-- Nothing but a number may be incomplete. -/
def Settled (lexer : Lexer) (tokens : List Token) : Prop :=
  lexer = ⟨.between, tokens⟩ ∨
    ∃ scan literal rest, lexer = ⟨.number scan, rest⟩ ∧ scan.token = .number literal ∧
      tokens = .number literal :: rest

theorem feed_settled {lexer : Lexer} {tokens : List Token} (h : lexer.Settled tokens) {c : Char}
    (hc : c = ',' ∨ c = ']' ∨ c = '\x7d') : lexer.feed c = begin ⟨.between, tokens⟩ c := by
  obtain rfl | ⟨scan, literal, rest, rfl, token, rfl⟩ := h
  · rfl
  · have ends : scan.extend? c = none := by
      unfold NumberScan.extend?
      obtain rfl | rfl | rfl := hc <;> cases scan.part <;> rfl
    have noDigit : c.isDigit = false := by
      obtain rfl | rfl | rfl := hc <;> rfl
    simp only [feed, ends, endNumber, token, noDigit, Bool.false_eq_true, and_false, if_false]
    rfl

theorem finish_settled {lexer : Lexer} {tokens : List Token} (h : lexer.Settled tokens) :
    lexer.finish = tokens.reverse := by
  obtain rfl | ⟨scan, literal, rest, rfl, token, rfl⟩ := h
  · rfl
  · simp only [finish, token]

theorem feed_between (tokens : List Token) (c : Char) :
    feed ⟨.between, tokens⟩ c = begin ⟨.between, tokens⟩ c := rfl

theorem begin_digit (lexer : Lexer) {c : Char} (h : c.isDigit = true) :
    lexer.begin c = { lexer with mode := .number (.ofDigit false c) } := by
  unfold begin
  split
  all_goals first
    | exact absurd h (by decide)
    | rw [if_pos h]

theorem feed_number {scan longer : NumberScan} {c : Char} (h : scan.extend? c = some longer)
    (tokens : List Token) : feed ⟨.number scan, tokens⟩ c = ⟨.number longer, tokens⟩ := by
  simp only [feed, h]

theorem foldl_feed_number {scan longer : NumberScan} {chars : List Char}
    (h : scan.extendAll? chars = some longer) (tokens : List Token) :
    chars.foldl feed ⟨.number scan, tokens⟩ = ⟨.number longer, tokens⟩ := by
  induction chars generalizing scan with
  | nil =>
      cases h
      rfl
  | cons c chars ih =>
      simp only [NumberScan.extendAll?] at h
      split at h
      · next more step =>
          rw [List.foldl_cons, feed_number step]
          exact ih h
      · cases h

theorem settled_number (number : Number) (tokens : List Token) :
    (number.text.toList.foldl feed ⟨.between, tokens⟩).Settled
      (.number number.literal :: tokens) := by
  obtain ⟨first, rest, scan, chars, digit, reads, token⟩ :=
    Numeral.writtenAs_chars number.isNegative number.isNumber_numeral
  change (NumberScan.ofDigit number.isNegative first).extendAll? rest = some scan at reads
  refine Or.inr ⟨scan, number.literal, tokens, ?_, token, rfl⟩
  rw [number.toList_text, chars]
  cases sign : number.isNegative with
  | false =>
      rw [sign] at reads
      simp only [Bool.false_eq_true, if_false, List.foldl_cons, feed_between, begin_digit _ digit]
      exact foldl_feed_number reads tokens
  | true =>
      rw [sign] at reads
      have first : NumberScan.extend? (.start true) first = some (.ofDigit true first) := by
        simp [NumberScan.extend?, NumberScan.start, digit]
      simp only [if_true, List.foldl_cons, feed_between, begin, feed_number first]
      exact foldl_feed_number reads tokens

theorem hexDigit?_hexDigit {n : Nat} (h : n < 16) :
    StringScan.hexDigit? (hexDigit n) = some n := by
  have digits : ∀ n < 16, StringScan.hexDigit? (hexDigit n) = some n := by decide
  exact digits n h

theorem feed_unit {scan : StringScan} {digitsLeft value digit : Nat} {c : Char}
    (h : StringScan.hexDigit? c = some digit) (more : 1 < digitsLeft) (tokens : List Token) :
    feed ⟨.unit scan digitsLeft value, tokens⟩ c =
      ⟨.unit scan (digitsLeft - 1) (16 * value + digit), tokens⟩ := by
  simp only [feed, h, if_neg (Nat.not_le.mpr more)]

theorem feed_lastUnit {scan : StringScan} {value digit : Nat} {c : Char}
    (h : StringScan.hexDigit? c = some digit) (tokens : List Token) :
    feed ⟨.unit scan 1 value, tokens⟩ c =
      ⟨.string (scan.pushUnit (16 * value + digit)), tokens⟩ := by
  simp only [feed, h, Nat.le_refl, if_true]

/-- A control character is written by its number. -/
theorem foldl_feed_control {scan : StringScan} (whole : scan.half = none) {c : Char}
    (control : c < ' ') (tokens : List Token) :
    ['\\', 'u', '0', '0', hexDigit (c.toNat / 16), hexDigit (c.toNat % 16)].foldl feed
      ⟨.string scan, tokens⟩ = ⟨.string (scan.push c), tokens⟩ := by
  have small : c.toNat < 32 := control
  have zero : StringScan.hexDigit? '0' = some 0 := by decide
  have high : StringScan.hexDigit? (hexDigit (c.toNat / 16)) = some (c.toNat / 16) :=
    hexDigit?_hexDigit (by omega)
  have low : StringScan.hexDigit? (hexDigit (c.toNat % 16)) = some (c.toNat % 16) :=
    hexDigit?_hexDigit (by omega)
  have number : 16 * (16 * (16 * (16 * 0 + 0) + 0) + c.toNat / 16) + c.toNat % 16 = c.toNat := by
    omega
  have unit : scan.pushUnit c.toNat = scan.push c := by
    have first : StringScan.isFirstHalf c.toNat = false := by
      simp only [StringScan.isFirstHalf, Bool.and_eq_false_iff, decide_eq_false_iff_not]
      omega
    have second : StringScan.isSecondHalf c.toNat = false := by
      simp only [StringScan.isSecondHalf, Bool.and_eq_false_iff, decide_eq_false_iff_not]
      omega
    simp only [StringScan.pushUnit, whole, first, second, Bool.false_eq_true, if_false,
      Char.ofNat_toNat]
  calc ['\\', 'u', '0', '0', hexDigit (c.toNat / 16), hexDigit (c.toNat % 16)].foldl feed
        ⟨.string scan, tokens⟩
      = ['0', '0', hexDigit (c.toNat / 16), hexDigit (c.toNat % 16)].foldl feed
          ⟨.unit scan 4 0, tokens⟩ := rfl
    _ = ⟨.string (scan.push c), tokens⟩ := by
        simp only [List.foldl_cons, List.foldl_nil, feed_unit zero (by decide : 1 < 4),
          feed_unit zero (by decide : 1 < 4 - 1), feed_unit high (by decide : 1 < 4 - 1 - 1),
          feed_lastUnit low, number, unit]

theorem foldl_feed_escapeChar {scan : StringScan} (whole : scan.half = none) (c : Char)
    (tokens : List Token) :
    (escapeChar c).toList.foldl feed ⟨.string scan, tokens⟩ =
      ⟨.string (scan.push c), tokens⟩ := by
  unfold escapeChar
  split
  all_goals try rfl
  next quote backslash _ _ _ _ _ =>
    split
    · next control =>
        rw [String.toList_ofList]
        exact foldl_feed_control whole control tokens
    · next plain =>
        have noQuote : c ≠ '"' := quote
        have noBackslash : c ≠ '\\' := backslash
        simp only [Char.toString, String.toList_singleton, List.foldl_cons, List.foldl_nil, feed,
          noQuote, noBackslash, plain, if_false]

theorem after_foldl_escapeChar {out : String} {scan : StringScan} {tokens : List Token}
    (whole : scan.half = none) (h : after out = ⟨.string scan, tokens⟩) (chars : List Char) :
    after (chars.foldl (fun out c => out ++ escapeChar c) out) =
      ⟨.string ⟨chars.reverse ++ scan.read, none, scan.hasText⟩, tokens⟩ := by
  induction chars generalizing out scan with
  | nil =>
      rw [List.foldl_nil, h]
      cases scan
      cases whole
      rfl
  | cons c chars ih =>
      have next : after (out ++ escapeChar c) = ⟨.string (scan.push c), tokens⟩ := by
        rw [after_append, h, foldl_feed_escapeChar whole]
      rw [List.foldl_cons, ih rfl next]
      simp [StringScan.push, whole]

theorem after_emitString {out : String} {tokens : List Token}
    (h : after out = ⟨.between, tokens⟩) (text : String) :
    after (emitString out text) = ⟨.between, .string (some text) :: tokens⟩ := by
  have opened : after (out.push '"') = ⟨.string .start, tokens⟩ := by
    rw [after_push, h]
    rfl
  rw [emitString, after_push, after_foldl_escapeChar rfl opened]
  simp [feed, emit, StringScan.token, StringScan.start]

mutual

theorem settled_emit {out : String} {tokens : List Token} (h : after out = ⟨.between, tokens⟩)
    (value : Json) : (after (Json.emit out value)).Settled (value.tokens.reverse ++ tokens) := by
  match value with
  | .null =>
      refine Or.inl ?_
      rw [Json.emit, after_append, h]
      rfl
  | .boolean value =>
      refine Or.inl ?_
      rw [Json.emit, after_append, h]
      cases value <;> rfl
  | .number value =>
      rw [Json.emit, after_append, h]
      exact settled_number value tokens
  | .string text => exact Or.inl (after_emitString h text)
  | .array [] =>
      refine Or.inl ?_
      rw [Json.emit, after_append, h]
      rfl
  | .array (item :: rest) =>
      have opened : after (out.push '[') = ⟨.between, .openArray :: tokens⟩ := by
        rw [after_push, h]
        rfl
      have items := settled_emitItems (settled_emit opened item) rest
      refine Or.inl ?_
      rw [Json.emit, after_push, feed_settled items (by simp)]
      simp [begin, emit, Json.tokens]
  | .object [] =>
      refine Or.inl ?_
      rw [Json.emit, after_append, h]
      rfl
  | .object ((name, value) :: rest) =>
      have opened : after (out.push '\x7b') = ⟨.between, .openObject :: tokens⟩ := by
        rw [after_push, h]
        rfl
      have colon : after ((emitString (out.push '\x7b') name).push ':') =
          ⟨.between, .colon :: .string (some name) :: .openObject :: tokens⟩ := by
        rw [after_push, after_emitString opened]
        rfl
      have members := settled_emitMembers (settled_emit colon value) rest
      refine Or.inl ?_
      rw [Json.emit, after_push, feed_settled members (by simp)]
      simp [begin, emit, Json.tokens]

theorem settled_emitItems {out : String} {tokens : List Token} (h : (after out).Settled tokens)
    (items : List Json) :
    (after (Json.emitItems out items)).Settled ((itemTokens items).reverse ++ tokens) := by
  match items with
  | [] => simpa [Json.emitItems, itemTokens] using h
  | item :: rest =>
      have comma : after (out.push ',') = ⟨.between, .comma :: tokens⟩ := by
        rw [after_push, feed_settled h (by simp)]
        rfl
      simpa [Json.emitItems, itemTokens] using settled_emitItems (settled_emit comma item) rest

theorem settled_emitMembers {out : String} {tokens : List Token} (h : (after out).Settled tokens)
    (members : List (String × Json)) :
    (after (Json.emitMembers out members)).Settled ((memberTokens members).reverse ++ tokens) := by
  match members with
  | [] => simpa [Json.emitMembers, memberTokens] using h
  | (name, value) :: rest =>
      have comma : after (out.push ',') = ⟨.between, .comma :: tokens⟩ := by
        rw [after_push, feed_settled h (by simp)]
        rfl
      have colon : after ((emitString (out.push ',') name).push ':') =
          ⟨.between, .colon :: .string (some name) :: .comma :: tokens⟩ := by
        rw [after_push, after_emitString comma]
        rfl
      simpa [Json.emitMembers, memberTokens] using
        settled_emitMembers (settled_emit colon value) rest

end

end Token.Lexer

theorem scan_compact (value : Json) : Token.scan value.compact.toList = value.tokens := by
  have start : Token.Lexer.after "" = ⟨.between, []⟩ := rfl
  have finished := Token.Lexer.finish_settled (Token.Lexer.settled_emit start value)
  rw [List.append_nil, List.reverse_reverse] at finished
  exact finished

end GraphEngine.Json
