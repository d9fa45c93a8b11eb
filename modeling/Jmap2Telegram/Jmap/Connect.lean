import Jmap2Telegram.ForStd.Shell
import Jmap2Telegram.I18n
import Jmap2Telegram.Jmap.PublicHost
import Jmap2Telegram.Transition.Strategy

/-!
# Connecting to a server

A chat names the server it logs in to, so whoever may log in can have the bot resolve any name and
send a request to any address, and reads in the chat what became of it. `connect` (`jmap.rs`)
answers with one text for all that the network does before there is a session: a name that does not
resolve, a port that is closed, a request that times out, a certificate that is refused. After that
`cmd_login` (`bot.rs`) asks for the state of the mailbox, saves the slot, and names the user of the
session.

* `loginReply_eq`: the answer is a function of the URL and of a verdict.
* `reserved_of_refused`: a verdict that names an address names one that is not public.
* `transcripts_eq_iff`: the verdicts are what a chat can learn, with as many attempts as it likes.
-/

namespace Jmap2Telegram

open Transition

/-! ### What is outside -/

/-- A URL, as far as `connect` reads it: `host_str` and `port_or_known_default`. -/
structure ServerUrl where
  host : Option String
  port : Option UInt16

/-- `url::Url::parse`, and the text of an address. -/
structure UrlLib where
  parse : String → Option ServerUrl
  ipText : IpAddr → String

/-- A session that was negotiated: its user name, and the answer to the first query. -/
structure Session where
  username : String
  emailState : Except String String

/-- The network at some time, each answer with the text of what went wrong: the resolver, and the
session negotiation of a client with a token that follows redirects to a host. -/
structure Network where
  lookupHost : String → UInt16 → Except String (List IpAddr)
  connect : (serverUrl token redirects : String) → Except String Session

/-! ### The errors -/

/-- The errors of `connect` and `current_email_state`. -/
inductive ConnectError where
  | insecureUrl
  | invalidUrl
  | noHost
  | privateHost (host ip : String)
  | unreachable
  | protocol (operation : String)

namespace ConnectError

/-- `localized`. -/
def localized (lang : Locale) : ConnectError → String
  | unreachable =>
    match lang with
    | .en => "JMAP server unreachable or invalid (details in server logs)"
    | .fr => "serveur JMAP injoignable ou invalide (détail dans les logs serveur)"
  | insecureUrl =>
    match lang with
    | .en => "the JMAP server URL must start with https://"
    | .fr => "l'URL du serveur JMAP doit commencer par https://"
  | invalidUrl =>
    match lang with
    | .en => "invalid JMAP server URL"
    | .fr => "URL de serveur JMAP invalide"
  | noHost =>
    match lang with
    | .en => "JMAP server URL without a host name"
    | .fr => "URL de serveur JMAP sans nom d'hôte"
  | privateHost host ip =>
    match lang with
    | .en =>
      "the JMAP server '" ++ (host ++ ("' resolves to a non-public address (" ++ (ip ++
        ("): refused to avoid an SSRF attack against the deployment's internal network. If " ++
          "this is a self-hosted server deliberately on a private network, enable " ++
          "ALLOW_PRIVATE_JMAP_HOSTS=1."))))
    | .fr =>
      "le serveur JMAP '" ++ (host ++ ("' se résout vers une adresse non publique (" ++ (ip ++
        (") : refusé pour éviter une attaque SSRF contre le réseau interne du déploiement. Si " ++
          "c'est un serveur auto-hébergé volontairement sur un réseau privé, active " ++
          "ALLOW_PRIVATE_JMAP_HOSTS=1."))))
  | protocol _ =>
    match lang with
    | .en => "the mail server rejected the operation (details in server logs)"
    | .fr => "le serveur mail a refusé l'opération (détail dans les logs serveur)"

end ConnectError

/-- `bot.login_failed`. -/
def loginFailed (lang : Locale) (error : String) : String :=
  match lang with
  | .en => "❌ Connection failed: " ++ error
  | .fr => "❌ Connexion impossible : " ++ error

/-- `bot.init_failed`. -/
def initFailed (lang : Locale) (error : String) : String :=
  match lang with
  | .en => "❌ Initialization failed: " ++ error
  | .fr => "❌ Erreur lors de l'initialisation : " ++ error

/-- `bot.storage_error`. -/
def storageError (lang : Locale) (error : String) : String :=
  match lang with
  | .en => "❌ Storage error: " ++ error
  | .fr => "❌ Erreur de stockage : " ++ error

/-- `bot.login_success`. -/
def loginSuccess (lang : Locale) (email : String) : String :=
  match lang with
  | .en => "✅ Connected as " ++ (email ++ ". You will get a notification for every new message.")
  | .fr =>
    "✅ Connecté en tant que " ++ (email ++ ". Tu recevras une notification à chaque nouveau mail.")

/-! ### `connect` -/

section

variable (lib : UrlLib) (net : Network) (allowPrivateHosts : Bool)

/-- What `assert_public_host` looks up. -/
def Network.hostLookup : HostLookup where
  portOrKnownDefault serverUrl := (lib.parse serverUrl).map ServerUrl.port
  lookupHost host port := (net.lookupHost host port).toOption

/-- An error of `assert_public_host`. -/
def JmapError.toConnectError : JmapError → ConnectError
  | invalidUrl => .invalidUrl
  | privateHost host ip => .privateHost host (lib.ipText ip)
  | unreachable => .unreachable

/-- `connect`. -/
def connect (serverUrl token : String) : Except ConnectError Session :=
  if !Shell.startsWith "https://" serverUrl then .error .insecureUrl
  else
    match lib.parse serverUrl with
    | none => .error .invalidUrl
    | some url =>
      match url.host with
      | none => .error .noHost
      | some host =>
        let guarded :=
          if allowPrivateHosts then .ok ()
          else assertPublicHost (net.hostLookup lib) host serverUrl
        match guarded with
        | .error e => .error (e.toConnectError lib)
        | .ok () =>
          match net.connect serverUrl token host with
          | .error _ => .error .unreachable
          | .ok session => .ok session

/-- `current_email_state`. -/
def Session.currentEmailState (session : Session) : Except ConnectError String :=
  match session.emailState with
  | .error _ => .error (.protocol "Email/get (state baseline)")
  | .ok state => .ok state

/-- What `cmd_login` answers, `saved` being the error of `add_account`, if it fails. -/
def loginReply (saved : Option String) (lang : Locale) (serverUrl token : String) : String :=
  match connect lib net allowPrivateHosts serverUrl token with
  | .error e => loginFailed lang (e.localized lang)
  | .ok session =>
    match session.currentEmailState with
    | .error e => initFailed lang (e.localized lang)
    | .ok _ =>
      match saved with
      | some e => storageError lang e
      | none => loginSuccess lang session.username

end

/-! ### Verdicts -/

/-- What becomes of an attempt on a URL with a host. -/
inductive Verdict where
  /-- The guard refuses an address, of this text. -/
  | refused (ip : String)
  /-- The name does not resolve, or no session can be negotiated. -/
  | unreachable
  /-- There is a session, and its first query fails. -/
  | uninitialized
  /-- There is a session that answers, and the login is not saved. -/
  | unsaved (error : String)
  /-- There is a session that answers, of a user. -/
  | connected (username : String)

/-- The verdict on what a session negotiation came to. -/
def Verdict.ofSession (saved : Option String) : Except String Session → Verdict
  | .error _ => .unreachable
  | .ok ⟨_, .error _⟩ => .uninitialized
  | .ok ⟨username, .ok _⟩ =>
    match saved with
    | some e => .unsaved e
    | none => .connected username

/-- The verdict of the network: the first address the guard knows, if the guard is on, or else what
becomes of the session. -/
def Network.verdict (net : Network) (lib : UrlLib) (allowPrivateHosts : Bool)
    (saved : Option String) (serverUrl token host : String) (port : Option UInt16) : Verdict :=
  let negotiated := Verdict.ofSession saved (net.connect serverUrl token host)
  if allowPrivateHosts then negotiated
  else
    match net.lookupHost host (port.getD 443) with
    | .error _ => .unreachable
    | .ok addrs =>
      match addrs.find? isDisallowedHost with
      | some ip => .refused (lib.ipText ip)
      | none => if addrs.isEmpty then .unreachable else negotiated

/-- The replies, but for what is put into them. -/
inductive ReplyKind where
  | failed
  | uninitialized
  | unsaved
  | connected

/-- The beginning of a reply. -/
def ReplyKind.opening (lang : Locale) : ReplyKind → String
  | failed => loginFailed lang ""
  | uninitialized => initFailed lang ""
  | unsaved => storageError lang ""
  | connected => loginSuccess lang ""

namespace Verdict

/-- What the chat reads. -/
def reply (lang : Locale) (host : String) : Verdict → String
  | refused ip => loginFailed lang ((ConnectError.privateHost host ip).localized lang)
  | unreachable => loginFailed lang (ConnectError.unreachable.localized lang)
  | uninitialized =>
    initFailed lang ((ConnectError.protocol "Email/get (state baseline)").localized lang)
  | unsaved error => storageError lang error
  | connected username => loginSuccess lang username

/-- The kind of the reply. -/
def kind : Verdict → ReplyKind
  | refused _ | unreachable => .failed
  | uninitialized => .uninitialized
  | unsaved _ => .unsaved
  | connected _ => .connected

end Verdict

theorem loginFailed_injective (lang : Locale) : Function.Injective (loginFailed lang) := by
  intro a b h
  cases lang with
  | en => exact (String.append_right_inj _).mp h
  | fr => exact (String.append_right_inj _).mp h

theorem storageError_injective (lang : Locale) : Function.Injective (storageError lang) := by
  intro a b h
  cases lang with
  | en => exact (String.append_right_inj _).mp h
  | fr => exact (String.append_right_inj _).mp h

theorem loginSuccess_injective (lang : Locale) : Function.Injective (loginSuccess lang) := by
  intro a b h
  cases lang with
  | en => exact (String.append_left_inj _).mp ((String.append_right_inj _).mp h)
  | fr => exact (String.append_left_inj _).mp ((String.append_right_inj _).mp h)

/-- The first letters of a text that begins with a long enough one. -/
private theorem take_append {start : String} (h : 10 ≤ start.toList.length) (rest rest' : String) :
    (start ++ rest).toList.take 10 = (start ++ rest').toList.take 10 := by
  rw [String.toList_append, String.toList_append, List.take_append_of_le_length h,
    List.take_append_of_le_length h]

/-- A reply begins as its kind does. -/
theorem Verdict.take_reply (lang : Locale) (host : String) (v : Verdict) :
    (v.reply lang host).toList.take 10 = (v.kind.opening lang).toList.take 10 := by
  cases v with
  | refused | unreachable | uninitialized | unsaved | connected =>
    cases lang with
    | en => exact take_append (by decide +kernel) _ _
    | fr => exact take_append (by decide +kernel) _ _

/-- Ten letters tell the kinds apart. -/
theorem ReplyKind.eq_of_take_opening {lang : Locale} {k k' : ReplyKind}
    (h : (k.opening lang).toList.take 10 = (k'.opening lang).toList.take 10) : k = k' := by
  cases lang <;> cases k <;> cases k' <;> first | rfl | exact absurd h (by decide +kernel)

/-- The text of a refusal is not the text of a failure. -/
private theorem refusal_ne_failure (lang : Locale) (host ip : String) :
    (ConnectError.privateHost host ip).localized lang ≠
      ConnectError.unreachable.localized lang := by
  intro h
  have hhead := congrArg (fun s => s.toList.head?) h
  cases lang with
  | en =>
    have hrefused : "the JMAP server '".toList.head? = some 't' := by decide +kernel
    change ("the JMAP server '" ++ _).toList.head? =
      "JMAP server unreachable or invalid (details in server logs)".toList.head? at hhead
    rw [String.toList_append, List.head?_append, hrefused, Option.some_or] at hhead
    exact absurd hhead (by decide +kernel)
  | fr =>
    have hrefused : "le serveur JMAP '".toList.head? = some 'l' := by decide +kernel
    change ("le serveur JMAP '" ++ _).toList.head? =
      "serveur JMAP injoignable ou invalide (détail dans les logs serveur)".toList.head? at hhead
    rw [String.toList_append, List.head?_append, hrefused, Option.some_or] at hhead
    exact absurd hhead (by decide +kernel)

/-- A refusal names the address. -/
private theorem ip_eq_of_refusal_eq {lang : Locale} {host ip ip' : String}
    (h : (ConnectError.privateHost host ip).localized lang =
      (ConnectError.privateHost host ip').localized lang) : ip = ip' := by
  cases lang with
  | en =>
    have h := (String.append_right_inj host).mp ((String.append_right_inj _).mp h)
    exact (String.append_left_inj _).mp ((String.append_right_inj _).mp h)
  | fr =>
    have h := (String.append_right_inj host).mp ((String.append_right_inj _).mp h)
    exact (String.append_left_inj _).mp ((String.append_right_inj _).mp h)

/-- The chat reads the verdict off the reply. -/
theorem Verdict.reply_injective (lang : Locale) (host : String) :
    Function.Injective (reply lang host) := by
  intro a b h
  have hkind : a.kind = b.kind := by
    have hopening : (a.kind.opening lang).toList.take 10 =
        (b.kind.opening lang).toList.take 10 := by
      rw [← take_reply lang host, h, take_reply]
    exact ReplyKind.eq_of_take_opening hopening
  cases a with
  | refused ip =>
    cases b with
    | refused ip' => rw [ip_eq_of_refusal_eq (loginFailed_injective lang h)]
    | unreachable => exact absurd (loginFailed_injective lang h) (refusal_ne_failure lang host ip)
    | uninitialized | unsaved | connected => cases hkind
  | unreachable =>
    cases b with
    | refused ip =>
      exact absurd (loginFailed_injective lang h).symm (refusal_ne_failure lang host ip)
    | unreachable => rfl
    | uninitialized | unsaved | connected => cases hkind
  | uninitialized =>
    cases b with
    | uninitialized => rfl
    | refused | unreachable | unsaved | connected => cases hkind
  | unsaved error =>
    cases b with
    | unsaved error' => rw [storageError_injective lang h]
    | refused | unreachable | uninitialized | connected => cases hkind
  | connected username =>
    cases b with
    | connected username' => rw [loginSuccess_injective lang h]
    | refused | unreachable | uninitialized | unsaved => cases hkind

/-- The loop stops at the first address the guard knows. -/
theorem checkAddrs_eq (host : String) (resolvedAny : Bool) (addrs : List IpAddr) :
    checkAddrs host resolvedAny addrs =
      match addrs.find? isDisallowedHost with
      | some ip => .error (.privateHost host ip)
      | none => if resolvedAny || !addrs.isEmpty then .ok () else .error .unreachable := by
  induction addrs generalizing resolvedAny with
  | nil => cases resolvedAny <;> rfl
  | cons ip addrs ih =>
    rw [checkAddrs, List.find?_cons]
    cases hip : isDisallowedHost ip with
    | true => rfl
    | false =>
      rw [if_neg Bool.false_ne_true, ih]
      cases resolvedAny <;> rfl

section

variable {lib : UrlLib} {net net' : Network} {allowPrivateHosts : Bool} {saved : Option String}
  {lang : Locale} {serverUrl token host : String} {port : Option UInt16}

/-- With a URL that has a host, the chat reads the verdict. -/
theorem loginReply_eq (hhttps : Shell.startsWith "https://" serverUrl = true)
    (hurl : lib.parse serverUrl = some ⟨some host, port⟩) :
    loginReply lib net allowPrivateHosts saved lang serverUrl token =
      (net.verdict lib allowPrivateHosts saved serverUrl token host port).reply lang host := by
  have hnegotiated : ∀ x : Except String Session,
      (match (match x with
          | .error _ => Except.error ConnectError.unreachable
          | .ok session => .ok session) with
        | .error e => loginFailed lang (e.localized lang)
        | .ok session =>
          match session.currentEmailState with
          | .error e => initFailed lang (e.localized lang)
          | .ok _ =>
            match saved with
            | some e => storageError lang e
            | none => loginSuccess lang session.username) =
      (Verdict.ofSession saved x).reply lang host := by
    intro x
    rcases x with error | ⟨username, error | state⟩
    · rfl
    · rfl
    · cases saved <;> rfl
  rw [loginReply, connect, hhttps, hurl, Network.verdict]
  cases allowPrivateHosts with
  | true => exact hnegotiated _
  | false =>
    have hguard : assertPublicHost (net.hostLookup lib) host serverUrl =
        match net.lookupHost host (port.getD 443) with
        | .error _ => .error .unreachable
        | .ok addrs => checkAddrs host false addrs := by
      simp only [assertPublicHost, Network.hostLookup, hurl, Option.map_some]
      cases net.lookupHost host (port.getD 443) <;> rfl
    simp only [hguard]
    rcases net.lookupHost host (port.getD 443) with error | addrs
    · rfl
    · simp only [checkAddrs_eq]
      rcases addrs.find? isDisallowedHost with - | ip
      · cases addrs with
        | nil => rfl
        | cons ip addrs => exact hnegotiated _
      · rfl

/-- With any other URL the network is not asked. -/
theorem loginReply_local (h : Shell.startsWith "https://" serverUrl = true →
      ∀ host port, lib.parse serverUrl ≠ some ⟨some host, port⟩) :
    loginReply lib net allowPrivateHosts saved lang serverUrl token =
      loginReply lib net' allowPrivateHosts saved lang serverUrl token := by
  rw [loginReply, loginReply, connect, connect]
  cases hhttps : Shell.startsWith "https://" serverUrl with
  | false => rfl
  | true =>
    rcases hurl : lib.parse serverUrl with - | ⟨- | host, port⟩
    · rfl
    · rfl
    · exact absurd hurl (h hhttps host port)

/-- A refusal is about an address that is not public, of those the name resolves to. -/
theorem reserved_of_refused {ip : String}
    (h : net.verdict lib allowPrivateHosts saved serverUrl token host port = .refused ip) :
    ∃ addrs addr, net.lookupHost host (port.getD 443) = .ok addrs ∧ addr ∈ addrs ∧
      lib.ipText addr = ip ∧ Reserved addr := by
  have hnegotiated : ∀ x, Verdict.ofSession saved x ≠ .refused ip := by
    rintro (error | ⟨username, error | state⟩) hx
    · cases hx
    · cases hx
    · cases saved <;> cases hx
  rw [Network.verdict] at h
  cases allowPrivateHosts with
  | true => exact absurd h (hnegotiated _)
  | false =>
    simp only [Bool.false_eq_true, if_false] at h
    rcases hlookup : net.lookupHost host (port.getD 443) with error | addrs
    · rw [hlookup] at h
      cases h
    · rw [hlookup] at h
      dsimp only at h
      rcases hfind : addrs.find? isDisallowedHost with - | addr
      · rw [hfind] at h
        dsimp only at h
        split_ifs at h
        exact absurd h (hnegotiated _)
      · rw [hfind] at h
        cases h
        have hknown := (isDisallowedHost_iff addr).mp (List.find?_some hfind)
        exact ⟨addrs, addr, rfl, List.mem_of_find?_eq_some hfind, rfl,
          (reserved_iff addr).mpr (.inl hknown)⟩

/-- **What a chat can learn.** However many logins it tries, each at a URL and with a token chosen
from the replies so far, over a network that changes meanwhile: it cannot tell two networks apart
that give the same verdicts, and it can tell any other two apart. Whether the slot can be saved is
up to the disk, at each attempt. -/
theorem transcripts_eq_iff {nets nets' : ℕ → Network} {saved : ℕ → Option String} :
    (∀ (strategy : List String → String × String) (n : ℕ),
        transcript (fun n q => loginReply lib (nets n) allowPrivateHosts (saved n) lang q.1 q.2)
            strategy n =
          transcript (fun n q => loginReply lib (nets' n) allowPrivateHosts (saved n) lang q.1 q.2)
            strategy n) ↔
      ∀ n serverUrl token host port, Shell.startsWith "https://" serverUrl = true →
        lib.parse serverUrl = some ⟨some host, port⟩ →
          (nets n).verdict lib allowPrivateHosts (saved n) serverUrl token host port =
            (nets' n).verdict lib allowPrivateHosts (saved n) serverUrl token host port := by
  rw [transcript_eq_iff]
  constructor
  · intro h n serverUrl token host port hhttps hurl
    have hreply := h n (serverUrl, token)
    rw [loginReply_eq hhttps hurl, loginReply_eq hhttps hurl] at hreply
    exact Verdict.reply_injective lang host hreply
  · rintro h n ⟨serverUrl, token⟩
    by_cases hnetwork : Shell.startsWith "https://" serverUrl = true ∧
        ∃ host port, lib.parse serverUrl = some ⟨some host, port⟩
    · obtain ⟨hhttps, host, port, hurl⟩ := hnetwork
      rw [loginReply_eq hhttps hurl, loginReply_eq hhttps hurl,
        h n serverUrl token host port hhttps hurl]
    · exact loginReply_local fun hhttps host port hurl => hnetwork ⟨hhttps, host, port, hurl⟩

end

end Jmap2Telegram
