import Jmap2Telegram.ForStd.ParseInt
import Jmap2Telegram.I18n
import Jmap2Telegram.Topics.Forum
import Mathlib.Data.Finset.Dedup

/-!
# The configuration

`Config::parse` of `config.rs`: what the environment of the process says, or why the bot does not
start. `Settings` is the whole `Config`; the models of the topics read the part of it that is a
`TopicConfig`.

* `parse_eq_ok_iff`: the bot starts if and only if each of four variables is right by itself, which
  is said without a parser, and the authorized chats are the ones the environment spells.
* `parse_eq_error`: an error names the first variable that is not right.
-/

namespace Jmap2Telegram

/-- What the environment has for the variables `from_env` reads. -/
structure EnvVars where
  telegramToken : Option String
  rawIds : Option String
  dataDir : Option String
  allowPrivateJmapHosts : Option String
  timezone : Option String
  defaultLanguage : Option String
  telegramThreadedMode : Option String
  telegramThreadStrategy : Option String
  telegramSharedThreadMode : Option String

/-- The time zones of `chrono_tz`, and `Tz::from_str`. -/
structure TimeZones where
  Tz : Type
  utc : Tz
  fromStr : String → Option Tz

/-- `Config`. -/
structure Settings (Tz : Type) extends TopicConfig where
  telegramToken : String
  authorizedChatIds : Finset ChatId
  dataDir : String
  allowPrivateJmapHosts : Bool
  timezone : Tz
  defaultLanguage : String

namespace Settings

/-! ### One variable after another -/

/-- The bot token. -/
def parseToken (telegramToken : Option String) : Except String String :=
  match telegramToken with
  | none => .error "TELEGRAM_BOT_TOKEN is not set"
  | some token =>
    if (Str.trim token).isEmpty then .error "TELEGRAM_BOT_TOKEN is empty" else .ok token

/-- The pieces of `AUTHORIZED_CHAT_IDS` between commas, without white space around them. -/
def trimmedPieces (raw : String) : List String :=
  (raw.toList.splitOn ',').map fun piece => String.ofList (Str.trimChars piece)

/-- The error about a piece that is no number. -/
def invalidChatId (piece : String) : String :=
  "invalid chat id '" ++ piece ++ "' in AUTHORIZED_CHAT_IDS"

/-- One piece. -/
def parseChatId (piece : String) : Except String ChatId :=
  match Str.parseI64 piece with
  | some chatId => .ok chatId
  | none => .error (invalidChatId piece)

/-- The authorized chats. -/
def parseChatIds (rawIds : Option String) : Except String (Finset ChatId) :=
  match rawIds with
  | none => .error "AUTHORIZED_CHAT_IDS is not set"
  | some raw =>
    match ((trimmedPieces raw).filter fun piece => !piece.isEmpty).mapM parseChatId with
    | .error e => .error e
    | .ok [] => .error "AUTHORIZED_CHAT_IDS must contain at least one chat id"
    | .ok chatIds => .ok chatIds.toFinset

/-- `parse_timezone`. -/
def parseTimezone (tzs : TimeZones) (raw : Option String) : Except String tzs.Tz :=
  match raw with
  | none | some "" => .ok tzs.utc
  | some name =>
    match tzs.fromStr name with
    | some tz => .ok tz
    | none => .error ("invalid TIMEZONE '" ++ name ++
        "' (expected an IANA zone name, e.g. 'Europe/Paris')")

/-- The default language. -/
def parseLanguage (defaultLanguage : Option String) : Except String String :=
  match defaultLanguage with
  | none | some "" => .ok "en"
  | some name =>
    match I18n.canonical name with
    | some lang => .ok lang.name
    | none => .error ("unsupported BOT_LANGUAGE '" ++ name ++ "' (expected one of: en, fr)")

/-- Up to ASCII case, one of some words. -/
def isAnyOf (words : List String) (v : String) : Bool :=
  words.any fun word => Str.eqIgnoreAsciiCase v word

/-- `TELEGRAM_THREADED_MODE`. -/
def parseThreadedMode : Option String → ThreadedModeConfig
  | some v =>
    if isAnyOf ["disabled", "off"] v || v == "0" || isAnyOf ["false"] v then .disabled
    else if isAnyOf ["enabled", "on"] v || v == "1" || isAnyOf ["true"] v then .enabled
    else .auto
  | none => .auto

/-- `TELEGRAM_THREAD_STRATEGY`. -/
def parseThreadStrategy : Option String → ThreadStrategyConfig
  | some v => if isAnyOf ["server", "host"] v then .server else .account
  | none => .account

/-- `TELEGRAM_SHARED_THREAD_MODE`. -/
def parseSharedThreadMode : Option String → SharedThreadModeConfig
  | some v => if isAnyOf ["dedicated", "separate"] v then .dedicated else .parent
  | none => .parent

/-- `Config::parse`. -/
def parse (tzs : TimeZones) (env : EnvVars) : Except String (Settings tzs.Tz) := do
  let telegramToken ← parseToken env.telegramToken
  let authorizedChatIds ← parseChatIds env.rawIds
  let timezone ← parseTimezone tzs env.timezone
  let defaultLanguage ← parseLanguage env.defaultLanguage
  return {
    telegramToken
    authorizedChatIds
    dataDir := env.dataDir.getD "/data"
    allowPrivateJmapHosts := env.allowPrivateJmapHosts ∈ [some "1", some "true", some "yes"]
    timezone
    defaultLanguage
    telegramThreadedMode := parseThreadedMode env.telegramThreadedMode
    telegramThreadStrategy := parseThreadStrategy env.telegramThreadStrategy
    telegramSharedThreadMode := parseSharedThreadMode env.telegramSharedThreadMode }

end Settings

/-! ### What is right -/

/-- The variables a start depends on, in the order they are looked at. -/
inductive RequiredVar where
  | telegramBotToken
  | authorizedChatIds
  | timezone
  | botLanguage
  deriving DecidableEq

namespace RequiredVar

/-- The name of the variable in the environment. -/
def name : RequiredVar → String
  | telegramBotToken => "TELEGRAM_BOT_TOKEN"
  | authorizedChatIds => "AUTHORIZED_CHAT_IDS"
  | timezone => "TIMEZONE"
  | botLanguage => "BOT_LANGUAGE"

/-- The variables that are looked at before. -/
def earlier : RequiredVar → List RequiredVar
  | telegramBotToken => []
  | authorizedChatIds => [telegramBotToken]
  | timezone => [telegramBotToken, authorizedChatIds]
  | botLanguage => [telegramBotToken, authorizedChatIds, timezone]

end RequiredVar

/-- What a variable is to be. -/
def EnvVars.Right (tzs : TimeZones) (env : EnvVars) : RequiredVar → Prop
  | .telegramBotToken => ∃ token, env.telegramToken = some token ∧ ¬Str.Blank token.toList
  | .authorizedChatIds => ∃ raw, env.rawIds = some raw ∧
      (∀ piece ∈ raw.toList.splitOn ',',
        Str.Blank piece ∨ ∃ chatId, Str.Spells (Str.trimChars piece) chatId) ∧
      ∃ piece ∈ raw.toList.splitOn ',', ¬Str.Blank piece
  | .timezone => ∀ name, env.timezone = some name → name = "" ∨ ∃ tz, tzs.fromStr name = some tz
  | .botLanguage => ∀ name, env.defaultLanguage = some name →
      name = "" ∨ ∃ lang : Locale, Str.eqIgnoreAsciiCase lang.name name = true

/-! ### Each variable by itself -/

/-- A result is there if and only if something is right; else the error names a variable. -/
def Checks {α : Type} (result : Except String α) (right : Prop) (v : RequiredVar) : Prop :=
  (right ∧ ∃ a, result = .ok a) ∨ ¬right ∧ ∃ e, result = .error e ∧ v.name.toList <:+: e.toList

theorem infix_toList_append_left {l : List Char} {a : String} (h : l <:+: a.toList) (b : String) :
    l <:+: (a ++ b).toList := by
  rw [String.toList_append]
  exact h.trans (List.prefix_append _ _).isInfix

theorem infix_toList_append_right {l : List Char} {b : String} (h : l <:+: b.toList) (a : String) :
    l <:+: (a ++ b).toList := by
  rw [String.toList_append]
  exact h.trans (List.suffix_append _ _).isInfix

namespace Settings

/-- The token is there and not blank, or it is the wrong variable. -/
theorem checks_parseToken (tzs : TimeZones) (env : EnvVars) :
    Checks (parseToken env.telegramToken) (env.Right tzs .telegramBotToken) .telegramBotToken := by
  rw [EnvVars.Right]
  cases env.telegramToken with
  | none => exact .inr ⟨by simp, _, rfl, by decide +kernel⟩
  | some token =>
    have hempty := Str.isEmpty_trim token
    by_cases h : Str.Blank token.toList
    · exact .inr ⟨by simp [h], _, by rw [parseToken, if_pos (hempty.mpr h)], by decide +kernel⟩
    · exact .inl ⟨⟨token, rfl, h⟩, token, by rw [parseToken, if_neg (hempty.not.mpr h)]⟩

/-- The pieces are read one after the other, up to the first that is no number. -/
theorem mapM_parseChatId (pieces : List String) :
    (∃ chatIds, pieces.mapM parseChatId = .ok chatIds ∧
      pieces.map Str.parseI64 = chatIds.map some) ∨
    ∃ piece ∈ pieces, Str.parseI64 piece = none ∧
      pieces.mapM parseChatId = .error (invalidChatId piece) := by
  induction pieces with
  | nil => exact .inl ⟨[], rfl, rfl⟩
  | cons piece pieces ih =>
    rw [List.mapM_cons, parseChatId]
    cases hpiece : Str.parseI64 piece with
    | none => exact .inr ⟨piece, List.mem_cons_self, hpiece, rfl⟩
    | some chatId =>
      obtain ⟨chatIds, hok, hread⟩ | ⟨other, hmem, hnone, herr⟩ := ih
      · exact .inl ⟨chatId :: chatIds, by rw [hok]; rfl, by simp [hpiece, hread]⟩
      · exact .inr ⟨other, List.mem_cons_of_mem _ hmem, hnone, by rw [herr]; rfl⟩

/-- A blank piece spells no id. -/
theorem not_spells_of_blank {piece : List Char} (h : Str.Blank piece) (chatId : ChatId) :
    ¬Str.Spells (Str.trimChars piece) chatId := by
  rw [Str.trimChars_eq_nil_iff.mpr h]
  rintro ⟨zeros, m, ⟨hpadded | hplus, -⟩ | ⟨hminus, -⟩⟩
  · exact Str.padded_ne_nil zeros m hpadded.symm
  · cases hplus
  · cases hminus

/-- The pieces are what stands between the commas, trimmed, if it is not blank. -/
theorem mem_trimmedPieces {raw piece : String} :
    piece ∈ (trimmedPieces raw).filter (fun piece => !piece.isEmpty) ↔
      ∃ p ∈ raw.toList.splitOn ',', ¬Str.Blank p ∧ String.ofList (Str.trimChars p) = piece := by
  rw [List.mem_filter, trimmedPieces, List.mem_map]
  constructor
  · rintro ⟨⟨p, hp, rfl⟩, hne⟩
    refine ⟨p, hp, fun hblank => ?_, rfl⟩
    rw [Bool.not_eq_true', Str.isEmpty_eq_isEmpty_toList, String.toList_ofList,
      Str.trimChars_eq_nil_iff.mpr hblank] at hne
    cases hne
  · rintro ⟨p, hp, hblank, rfl⟩
    refine ⟨⟨p, hp, rfl⟩, ?_⟩
    rw [Bool.not_eq_true', Str.isEmpty_eq_isEmpty_toList, String.toList_ofList,
      ← Bool.not_eq_true, List.isEmpty_iff, Str.trimChars_eq_nil_iff]
    exact hblank

/-- A piece that parses spells a number, without the white space. -/
theorem parseI64_trimChars {p : List Char} {chatId : ChatId} :
    Str.parseI64 (String.ofList (Str.trimChars p)) = some chatId ↔
      Str.Spells (Str.trimChars p) chatId := by
  rw [Str.parseI64_eq_some_iff, String.toList_ofList]

/-- Every piece of the list of chats spells an id, and there is one. -/
theorem checks_parseChatIds (tzs : TimeZones) (env : EnvVars) :
    Checks (parseChatIds env.rawIds) (env.Right tzs .authorizedChatIds) .authorizedChatIds := by
  rw [EnvVars.Right]
  cases env.rawIds with
  | none => exact .inr ⟨by simp, _, rfl, by decide +kernel⟩
  | some raw =>
    rw [parseChatIds]
    obtain ⟨chatIds, hok, hmap⟩ | ⟨piece, hmem, hnone, herr⟩ :=
      mapM_parseChatId ((trimmedPieces raw).filter fun piece => !piece.isEmpty)
    · rw [hok]
      cases chatIds with
      | nil =>
        -- no piece is left, so all of them are blank
        refine .inr ⟨?_, _, rfl, by decide +kernel⟩
        rintro ⟨_, hraw, -, p, hp, hblank⟩
        cases hraw
        have hleft := mem_trimmedPieces.mpr ⟨p, hp, hblank, rfl⟩
        rw [List.map_eq_nil_iff.mp hmap] at hleft
        exact List.not_mem_nil hleft
      | cons chatId chatIds =>
        refine .inl ⟨⟨raw, rfl, fun p hp => ?_, ?_⟩, _, rfl⟩
        · by_cases hblank : Str.Blank p
          · exact .inl hblank
          have hleft := List.mem_map_of_mem (f := Str.parseI64)
            (mem_trimmedPieces.mpr ⟨p, hp, hblank, rfl⟩)
          rw [hmap] at hleft
          obtain ⟨chatId', -, hchatId'⟩ := List.mem_map.mp hleft
          exact .inr ⟨chatId', parseI64_trimChars.mp hchatId'.symm⟩
        · cases hleft : (trimmedPieces raw).filter fun piece => !piece.isEmpty with
          | nil =>
            rw [hleft] at hmap
            cases hmap
          | cons piece pieces =>
            obtain ⟨p, hp, hblank, -⟩ :=
              mem_trimmedPieces.mp (hleft ▸ List.mem_cons_self : piece ∈ _)
            exact ⟨p, hp, hblank⟩
    · rw [herr]
      refine .inr ⟨?_, _, rfl, infix_toList_append_right (by decide +kernel) _⟩
      rintro ⟨_, hraw, hread, -⟩
      cases hraw
      obtain ⟨p, hp, hblank, rfl⟩ := mem_trimmedPieces.mp hmem
      obtain ⟨chatId, hspells⟩ := (hread p hp).resolve_left hblank
      rw [parseI64_trimChars.mpr hspells] at hnone
      cases hnone

/-- The chats that are read are those some piece spells. -/
theorem mem_parseChatIds {raw : String} {ids : Finset ChatId}
    (h : parseChatIds (some raw) = .ok ids) (chatId : ChatId) :
    chatId ∈ ids ↔ ∃ p ∈ raw.toList.splitOn ',', Str.Spells (Str.trimChars p) chatId := by
  rw [parseChatIds] at h
  obtain ⟨chatIds, hok, hmap⟩ | ⟨piece, -, -, herr⟩ :=
    mapM_parseChatId ((trimmedPieces raw).filter fun piece => !piece.isEmpty)
  · have hids : ids = chatIds.toFinset := by
      rw [hok] at h
      cases chatIds with
      | nil => cases h
      | cons => exact (Except.ok.inj h).symm
    rw [hids, List.mem_toFinset, ← List.mem_map_of_injective (Option.some_injective _), ← hmap,
      List.mem_map]
    constructor
    · rintro ⟨piece, hpiece, hread⟩
      obtain ⟨p, hp, -, rfl⟩ := mem_trimmedPieces.mp hpiece
      exact ⟨p, hp, parseI64_trimChars.mp hread⟩
    · rintro ⟨p, hp, hspells⟩
      have hblank : ¬Str.Blank p := fun hblank => not_spells_of_blank hblank _ hspells
      exact ⟨_, mem_trimmedPieces.mpr ⟨p, hp, hblank, rfl⟩, parseI64_trimChars.mpr hspells⟩
  · rw [herr] at h
    cases h

/-- The time zone is known. -/
theorem checks_parseTimezone (tzs : TimeZones) (env : EnvVars) :
    Checks (parseTimezone tzs env.timezone) (env.Right tzs .timezone) .timezone := by
  rw [EnvVars.Right]
  cases env.timezone with
  | none => exact .inl ⟨by simp, tzs.utc, rfl⟩
  | some name =>
    obtain rfl | hne := eq_or_ne name ""
    · exact .inl ⟨by simp, tzs.utc, rfl⟩
    unfold parseTimezone
    split
    case h_1 hname => cases hname
    case h_2 hname => exact absurd (Option.some.inj hname) hne
    case h_3 _ other hother hsome =>
      cases hsome
      cases htz : tzs.fromStr name with
      | some tz => exact .inl ⟨by simp [htz], tz, rfl⟩
      | none =>
        exact .inr ⟨by simp [htz, hne], _, rfl,
          infix_toList_append_left (infix_toList_append_left (by decide +kernel) name) _⟩

theorem checks_parseLanguage (tzs : TimeZones) (env : EnvVars) :
    Checks (parseLanguage env.defaultLanguage) (env.Right tzs .botLanguage) .botLanguage := by
  rw [EnvVars.Right]
  cases env.defaultLanguage with
  | none => exact .inl ⟨by simp, "en", rfl⟩
  | some name =>
    obtain rfl | hne := eq_or_ne name ""
    · exact .inl ⟨by simp, "en", rfl⟩
    have hlang : (∃ lang : Locale, Str.eqIgnoreAsciiCase lang.name name = true) ↔
        (I18n.canonical name).isSome = true := by
      rw [I18n.canonical, Option.isSome_map, List.find?_isSome]
      constructor
      · rintro ⟨lang, hlang⟩
        exact ⟨(lang.name, lang), by cases lang <;> decide, hlang⟩
      · rintro ⟨⟨text, lang⟩, hmem, htext⟩
        have htextEq : text = lang.name := by
          simp only [I18n.supported, List.mem_cons, Prod.mk.injEq, List.not_mem_nil,
            or_false] at hmem
          rcases hmem with ⟨rfl, rfl⟩ | ⟨rfl, rfl⟩ <;> rfl
        exact ⟨lang, htextEq ▸ htext⟩
    unfold parseLanguage
    split
    case h_1 hname => cases hname
    case h_2 hname => exact absurd (Option.some.inj hname) hne
    case h_3 _ other hother hsome =>
      cases hsome
      cases hcanonical : I18n.canonical name with
      | some lang =>
        refine .inl ⟨?_, lang.name, rfl⟩
        intro other hother
        cases hother
        exact .inr (hlang.mpr (by rw [hcanonical]; rfl))
      | none =>
        refine .inr ⟨fun h => ?_, _, rfl,
          infix_toList_append_left (infix_toList_append_left (by decide +kernel) name) _⟩
        have := hlang.mp ((h name rfl).resolve_left hne)
        rw [hcanonical] at this
        cases this

/-! ### The whole environment -/

/-- All variables are checked, in their order. -/
theorem checks_parse (tzs : TimeZones) (env : EnvVars) :
    (∃ s, parse tzs env = .ok s ∧ parseChatIds env.rawIds = .ok s.authorizedChatIds ∧
      ∀ v, env.Right tzs v) ∨
    ∃ v e, parse tzs env = .error e ∧ v.name.toList <:+: e.toList ∧ ¬env.Right tzs v ∧
      ∀ w ∈ v.earlier, env.Right tzs w := by
  obtain ⟨htoken, token, hparseToken⟩ | ⟨hnot, e, herr, hname⟩ := checks_parseToken tzs env
  case inr =>
    exact .inr ⟨_, e, by rw [parse, herr]; rfl, hname, hnot, fun w hw => (nomatch hw)⟩
  obtain ⟨hids, ids, hparseIds⟩ | ⟨hnot, e, herr, hname⟩ := checks_parseChatIds tzs env
  case inr =>
    exact .inr ⟨_, e, by rw [parse, hparseToken, herr]; rfl, hname, hnot,
      List.forall_mem_singleton.mpr htoken⟩
  obtain ⟨htz, tz, hparseTz⟩ | ⟨hnot, e, herr, hname⟩ := checks_parseTimezone tzs env
  case inr =>
    exact .inr ⟨_, e, by rw [parse, hparseToken, hparseIds, herr]; rfl, hname, hnot,
      List.forall_mem_cons.mpr ⟨htoken, List.forall_mem_singleton.mpr hids⟩⟩
  obtain ⟨hlang, lang, hparseLang⟩ | ⟨hnot, e, herr, hname⟩ := checks_parseLanguage tzs env
  case inr =>
    exact .inr ⟨_, e, by rw [parse, hparseToken, hparseIds, hparseTz, herr]; rfl, hname, hnot,
      List.forall_mem_cons.mpr ⟨htoken,
        List.forall_mem_cons.mpr ⟨hids, List.forall_mem_singleton.mpr htz⟩⟩⟩
  refine .inl ⟨_, by rw [parse, hparseToken, hparseIds, hparseTz, hparseLang]; rfl, hparseIds, ?_⟩
  intro v
  cases v with
  | telegramBotToken => exact htoken
  | authorizedChatIds => exact hids
  | timezone => exact htz
  | botLanguage => exact hlang

/-- The authorized chats are those some piece of `AUTHORIZED_CHAT_IDS` spells. -/
theorem mem_authorizedChatIds {tzs : TimeZones} {env : EnvVars} {s : Settings tzs.Tz} {raw : String}
    (h : parse tzs env = .ok s) (hraw : env.rawIds = some raw) (chatId : ChatId) :
    chatId ∈ s.authorizedChatIds ↔
      ∃ piece ∈ raw.toList.splitOn ',', Str.Spells (Str.trimChars piece) chatId := by
  obtain ⟨s', hok, hids, -⟩ | ⟨v, e, herr, -⟩ := checks_parse tzs env
  · rw [hok] at h
    cases h
    rw [hraw] at hids
    exact mem_parseChatIds hids chatId
  · rw [herr] at h
    cases h

/-- The bot starts if and only if each variable is right by itself, and then the authorized chats
are those that some piece of `AUTHORIZED_CHAT_IDS` spells, white space around it or not. -/
theorem parse_eq_ok_iff (tzs : TimeZones) (env : EnvVars) :
    ((∃ s, parse tzs env = .ok s) ↔ ∀ v, env.Right tzs v) ∧
      ∀ s, parse tzs env = .ok s → ∃ raw, env.rawIds = some raw ∧
        ∀ chatId, chatId ∈ s.authorizedChatIds ↔
          ∃ piece ∈ raw.toList.splitOn ',', Str.Spells (Str.trimChars piece) chatId := by
  obtain ⟨s, hok, -, hright⟩ | ⟨v, e, herr, -, hnot, -⟩ := checks_parse tzs env
  · refine ⟨⟨fun _ => hright, fun _ => ⟨s, hok⟩⟩, fun s' hs' => ?_⟩
    obtain ⟨raw, hraw, -⟩ := hright .authorizedChatIds
    exact ⟨raw, hraw, mem_authorizedChatIds hs' hraw⟩
  · have hnone : ∀ s, parse tzs env ≠ .ok s := fun s hs => by rw [herr] at hs; cases hs
    exact ⟨⟨fun ⟨s, hs⟩ => absurd hs (hnone s), fun h => absurd (h v) hnot⟩,
      fun s hs => absurd hs (hnone s)⟩

/-- An error names the first variable that is not right. -/
theorem parse_eq_error {tzs : TimeZones} {env : EnvVars} {e : String}
    (h : parse tzs env = .error e) :
    ∃ v : RequiredVar, v.name.toList <:+: e.toList ∧ ¬env.Right tzs v ∧
      ∀ w ∈ v.earlier, env.Right tzs w := by
  obtain ⟨s, hok, -⟩ | ⟨v, e', herr, hname, hnot, hearlier⟩ := checks_parse tzs env
  · rw [hok] at h
    cases h
  · rw [herr] at h
    cases h
    exact ⟨v, hname, hnot, hearlier⟩

/-- The environment with a token, authorized chats and a language. -/
def minimal (token ids : String) (lang : Option String) : EnvVars where
  telegramToken := some token
  rawIds := some ids
  dataDir := none
  allowPrivateJmapHosts := none
  timezone := none
  defaultLanguage := lang
  telegramThreadedMode := none
  telegramThreadStrategy := none
  telegramSharedThreadMode := none

/-- Time zones with UTC alone. -/
def utcOnly : TimeZones := ⟨Unit, (), fun name => if name = "UTC" then some () else none⟩

theorem parse_eq_error_language :
    parse utcOnly (minimal "tok" " 111 , -222," (some "klingon")) =
        .error "unsupported BOT_LANGUAGE 'klingon' (expected one of: en, fr)" ∧
      ∃ v : RequiredVar,
        v.name.toList <:+: "unsupported BOT_LANGUAGE 'klingon' (expected one of: en, fr)".toList ∧
        ¬(minimal "tok" " 111 , -222," (some "klingon")).Right utcOnly v ∧
        ∀ w ∈ v.earlier, (minimal "tok" " 111 , -222," (some "klingon")).Right utcOnly w := by
  have h : parse utcOnly (minimal "tok" " 111 , -222," (some "klingon")) =
      .error "unsupported BOT_LANGUAGE 'klingon' (expected one of: en, fr)" := rfl
  exact ⟨h, parse_eq_error h⟩

end Settings

end Jmap2Telegram
