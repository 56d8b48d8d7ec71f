import Krb5TokenService.CommandLine.Shell
import Krb5TokenService.Minting.Mint

/-! `etc/cern-get-keytab` with the repository's patch: the shell command that
`call_msktutil` builds, and what a shell reads in it. -/
namespace Krb5TokenService.Minting

open Python CommandLine

/-- The shell that `subprocess.Popen(cmd, shell=True)` runs. -/
def posixShell : Shell CodePoint where
  blank c := c = 0x20 || c = 0x09
  singleQuote := 0x27
  doubleQuote := 0x22
  backslash := 0x5C
  newline := 0x0A
  operator c := c ∈ py "|&;<>()$`*?[#~"
  expanding c := c ∈ py "$`"

/-- What `shlex.quote` leaves unquoted: the ASCII word characters, and some
punctuation. -/
def shlexSafe (c : CodePoint) : Bool := isLetter c || isAsciiDigit c || c ∈ py "_@%+=:,.-/"

/-- `shlex.quote`. -/
def shlexQuote (text : PyStr) : PyStr := quote posixShell shlexSafe text

/-- A string that is given and not empty, as `if text:` asks. -/
def given : Option PyStr → Option PyStr
  | none | some [] => none
  | some text => some text

/-- One part of a command: `f"{name} {value}"`. -/
def namedPart (name : String) (value : PyStr) : PyStr := py name ++ 0x20 :: value

def partIfGiven (name : String) (value : Option PyStr) : List PyStr :=
  match given value with
  | none => []
  | some text => [namedPart name text]

/-- The arguments of `call_msktutil`. -/
structure MsktutilCall where
  krb5conf : Option PyStr
  ccache : Option PyStr
  keytab : Option PyStr
  kdcserver : Option PyStr
  principal : Option PyStr
  hostname : Option PyStr
  service : Option PyStr
  enctypes : Option PyStr
  isolate : Bool
  userkeytab : Bool
  userpass : Option PyStr
  userlogin : Option PyStr
  hostAlias : Option PyStr
  cname : Option PyStr
  remove : Option PyStr
  verbose : Bool
  debug : Bool
  password : Option PyStr
  smbpassword : Bool

namespace MsktutilCall

variable (call : MsktutilCall)

/-- `KRB5_CONFIG` and `KRB5CCNAME`, set for the one command. -/
def environmentParts : List PyStr :=
  (match given call.krb5conf with
  | none => []
  | some krb5conf => [py "KRB5_CONFIG=" ++ krb5conf]) ++
  match given call.ccache with
  | none => []
  | some ccache => [py "KRB5CCNAME=FILE:" ++ ccache]

def programParts : List PyStr :=
  match given call.hostAlias, given call.cname with
  | none, none => [py "/usr/sbin/msktutil --update --dont-expire-password"]
  | some host, _ | none, some host =>
      [py "/usr/sbin/msktutil --update --dont-expire-password --no-canonical-name " ++
        py "--dont-update-dnshostname --hostname", host]

def baseParts : List PyStr :=
  if call.userkeytab then [py "--base OU=Users"]
  else if (given call.hostAlias).isSome then [py "--base 'DC=cern,DC=ch'"]
  else [py "--base OU=Computers"]

def verbosityParts : List PyStr :=
  (if call.verbose then [py "--verbose"] else []) ++
    (if call.debug then [py "--verbose --verbose"] else []) ++
    if call.isolate then [py "--dont-update-dnshostname"] else []

def serviceParts : List PyStr :=
  match given call.remove with
  | some remove => [namedPart "--remove-service" remove]
  | none =>
      if call.userkeytab then []
      else [namedPart "--service" ((given call.service).getD (py "host"))]

/-- `principal.replace('$','')`. -/
def withoutDollar (principal : PyStr) : PyStr := principal.filter (· ≠ 0x24)

/-- The host name; the one that DNS gives for the principal is looked up only
if there is no login, and takes a principal. -/
def hostnameParts (getDnsName : PyStr → Option PyStr) : Except PyExc (List PyStr) :=
  match given call.hostname, given call.userlogin, call.principal with
  | some hostname, _, _ => .ok [namedPart "--hostname" hostname]
  | none, some _, _ => .ok []
  | none, none, none => .error (.attributeError (py "'NoneType' object has no attribute 'replace'"))
  | none, none, some principal =>
      .ok (match getDnsName (withoutDollar principal) with
        | none => []
        | some result =>
            if result.contains (py "dyndns.cern.ch") then
              [namedPart "--no-canonical-name --hostname"
                (withoutDollar principal ++ py ".cern.ch")]
            else [])

/-- The parts from the keytab to the account's old password. -/
def accountParts : List PyStr :=
  partIfGiven "--keytab" call.keytab ++ partIfGiven "--server" call.kdcserver ++
    [namedPart "--enctypes" ((given call.enctypes).getD (py "24"))] ++
    (if call.smbpassword then [py "--set-samba-secret"] else []) ++
    (if call.userkeytab then [py "--dont-change-password --use-service-account"] else []) ++
    partIfGiven "--account-name" call.userlogin ++
    partIfGiven "--old-account-password" ((given call.userpass).map shlexQuote) ++
    partIfGiven "--computer-name" ((given call.principal).map withoutDollar) ++
    partIfGiven "--old-account-password" ((given call.password).map shlexQuote)

/-- The command that `call_msktutil` gives to the shell. -/
def command (getDnsName : PyStr → Option PyStr) : Except PyExc PyStr := do
  let host ← call.hostnameParts getDnsName
  pure ([0x20].intercalate (call.environmentParts ++ call.programParts ++ call.baseParts ++
    call.verbosityParts ++ call.serviceParts ++ host ++ call.accountParts))

end MsktutilCall

/-- The call that `main` makes for `-u -v -l <username> --keytab <path>`, with
the temporary `krb5.conf` it wrote, the domain controller that DNS named and the
password it was given. -/
def userKeytabCall (krb5conf kdcserver keytab username password : PyStr) : MsktutilCall where
  krb5conf := some krb5conf
  ccache := none
  keytab := some keytab
  kdcserver := some kdcserver
  principal := none
  hostname := none
  service := none
  enctypes := none
  isolate := false
  userkeytab := true
  userpass := some password
  userlogin := some username
  hostAlias := none
  cname := none
  remove := none
  verbose := true
  debug := false
  password := none
  smbpassword := false

section Reading

variable {c : CodePoint} {username : PyStr}

theorem posixShell_quotes : posixShell.Quotes :=
  ⟨by decide, by decide, by decide, by decide, by decide⟩

/-- Every character that is left unquoted stands for itself. -/
theorem literal_of_shlexSafe (h : shlexSafe c = true) : Literal posixShell c := by
  have hNot (d : CodePoint) (hUnsafe : shlexSafe d = false) : c ≠ d := by
    rintro rfl
    rw [hUnsafe] at h
    cases h
  refine ⟨?_, hNot _ (by decide), hNot _ (by decide), hNot _ (by decide), hNot _ (by decide), ?_⟩
  · simp [posixShell, hNot 0x20 (by decide), hNot 0x09 (by decide)]
  · have hOperators : (py "|&;<>()$`*?[#~").all (fun d => !shlexSafe d) = true := by decide
    simp only [posixShell, decide_eq_false_iff_not]
    intro hMem
    have hUnsafe := List.all_eq_true.mp hOperators c hMem
    simp [h] at hUnsafe

theorem shlexSafe_of_isUsernameChar (h : isUsernameChar c = true) : shlexSafe c = true := by
  simp only [isUsernameChar, Bool.or_eq_true, decide_eq_true_eq] at h
  rcases h with ((hLetter | hDigit) | rfl) | rfl
  · simp [shlexSafe, hLetter]
  · simp [shlexSafe, hDigit]
  · decide
  · decide

theorem words_shlexQuote (text : PyStr) : words posixShell (shlexQuote text) = some [text] :=
  words_quote posixShell_quotes (fun _ => literal_of_shlexSafe) text

theorem words_username (h : validateUsername username = .ok ()) :
    words posixShell username = some [username] := by
  obtain ⟨first, rest, rfl, hFirst, hRest⟩ := validateUsername_ok h
  refine words_literal (by simp) fun c hMem => literal_of_shlexSafe ?_
  rcases List.mem_cons.mp hMem with rfl | hLater
  · exact shlexSafe_of_isUsernameChar (by simp [isUsernameChar, hFirst])
  · exact shlexSafe_of_isUsernameChar (hRest c hLater)

/-- A name and a value with a blank between them. -/
theorem words_namedPart {name : String} {value word : PyStr}
    (hName : words posixShell (py name) = some [py name])
    (hValue : words posixShell value = some [word]) :
    words posixShell (namedPart name value) = some [py name, word] := by
  rw [namedPart, words_append_blank (by decide) hName, hValue]
  rfl

/-- The words of a part that is left out if its value is empty. -/
def wordsIfGiven (name : PyStr) (value : PyStr) : List PyStr :=
  if value = [] then [] else [name, value]

theorem reads_partIfGiven {name : String} (hName : words posixShell (py name) = some [py name])
    {value : PyStr} (hValue : ∀ c ∈ value, Literal posixShell c) :
    Reads posixShell (partIfGiven name (some value)) (wordsIfGiven (py name) value) := by
  unfold partIfGiven wordsIfGiven
  cases value with
  | nil => exact .nil
  | cons first rest =>
      exact .one (words_namedPart hName (words_literal (List.cons_ne_nil _ _) hValue))

end Reading

section Command

variable (krb5conf kdcserver keytab username password : PyStr)

/-- The words of the command up to the account's name; the first is an
assignment. -/
def msktutilWords : List PyStr :=
  (if krb5conf = [] then [] else [py "KRB5_CONFIG=" ++ krb5conf]) ++
    [py "/usr/sbin/msktutil", py "--update", py "--dont-expire-password", py "--base",
      py "OU=Users", py "--verbose"] ++
    wordsIfGiven (py "--keytab") keytab ++ wordsIfGiven (py "--server") kdcserver ++
    [py "--enctypes", py "24", py "--dont-change-password", py "--use-service-account"]

variable {krb5conf kdcserver keytab username password}

variable (kdcserver keytab username password) in
theorem reads_environmentParts (h : ∀ c ∈ krb5conf, Literal posixShell c) :
    Reads posixShell (userKeytabCall krb5conf kdcserver keytab username password).environmentParts
      (if krb5conf = [] then [] else [py "KRB5_CONFIG=" ++ krb5conf]) := by
  cases krb5conf with
  | nil => exact .nil
  | cons first rest =>
      have hName : (py "KRB5_CONFIG=").all shlexSafe = true := by decide
      refine .one (words_literal (by simp) fun c hMem => ?_)
      rcases List.mem_append.mp hMem with hPrefix | hPath
      · exact literal_of_shlexSafe (List.all_eq_true.mp hName c hPrefix)
      · exact h c hPath

theorem shlexQuote_ne_nil (text : PyStr) : shlexQuote text ≠ [] := by
  intro hEmpty
  have hWords := words_shlexQuote text
  rw [hEmpty] at hWords
  cases hWords

theorem given_of_ne_nil {text : PyStr} (h : text ≠ []) : given (some text) = some text := by
  cases text with
  | nil => exact absurd rfl h
  | cons first rest => rfl

theorem partIfGiven_of_ne_nil (name : String) {text : PyStr} (h : text ≠ []) :
    partIfGiven name (some text) = [namedPart name text] := by
  rw [partIfGiven, given_of_ne_nil h]

/-- The parts from the keytab on, for an account with a password. -/
theorem userKeytabCall_accountParts (hUsername : username ≠ []) (hPassword : password ≠ []) :
    (userKeytabCall krb5conf kdcserver keytab username password).accountParts =
      partIfGiven "--keytab" (some keytab) ++ partIfGiven "--server" (some kdcserver) ++
        [namedPart "--enctypes" (py "24")] ++
        [py "--dont-change-password --use-service-account"] ++
        [namedPart "--account-name" username] ++
        [namedPart "--old-account-password" (shlexQuote password)] := by
  have hLogin := partIfGiven_of_ne_nil "--account-name" hUsername
  have hQuoted : partIfGiven "--old-account-password" ((given (some password)).map shlexQuote) =
      [namedPart "--old-account-password" (shlexQuote password)] := by
    rw [given_of_ne_nil hPassword]
    exact partIfGiven_of_ne_nil _ (shlexQuote_ne_nil password)
  have hNone (name : String) : partIfGiven name none = [] := rfl
  have hGiven : given none = none := rfl
  simp only [MsktutilCall.accountParts, userKeytabCall, hLogin, hQuoted, hGiven, Option.map_none,
    hNone, Option.getD_none, Bool.false_eq_true, if_false, if_true, List.append_nil]

/-- A shell reads the command that a keytab request leads to as one simple
command, of the fixed words, the username and the password. -/
theorem msktutil_command_words (hUsername : validateUsername username = .ok ())
    (hPassword : password ≠ []) (hKrb5conf : ∀ c ∈ krb5conf, Literal posixShell c)
    (hKeytab : ∀ c ∈ keytab, Literal posixShell c)
    (hKdcserver : ∀ c ∈ kdcserver, Literal posixShell c)
    (getDnsName : PyStr → Option PyStr) :
    ∃ line, (userKeytabCall krb5conf kdcserver keytab username password).command getDnsName =
        .ok line ∧
      words posixShell line = some (msktutilWords krb5conf kdcserver keytab ++
        [py "--account-name", username, py "--old-account-password", password]) := by
  have hSome : username ≠ [] := by
    obtain ⟨first, rest, rfl, -⟩ := validateUsername_ok hUsername
    simp
  have hAccount : Reads posixShell
      (userKeytabCall krb5conf kdcserver keytab username password).accountParts
      (wordsIfGiven (py "--keytab") keytab ++ wordsIfGiven (py "--server") kdcserver ++
        [py "--enctypes", py "24"] ++ [py "--dont-change-password", py "--use-service-account"] ++
        [py "--account-name", username] ++ [py "--old-account-password", password]) := by
    rw [userKeytabCall_accountParts hSome hPassword]
    refine .append (.append (.append (.append (.append ?_ ?_) ?_) ?_) ?_) ?_
    · exact reads_partIfGiven (by decide) hKeytab
    · exact reads_partIfGiven (by decide) hKdcserver
    · exact .one (words_namedPart (by decide) (by decide))
    · exact .one (by decide)
    · exact .one (words_namedPart (by decide) (words_username hUsername))
    · exact .one (words_namedPart (by decide) (words_shlexQuote password))
  have hHost : (userKeytabCall krb5conf kdcserver keytab username password).hostnameParts
      getDnsName = .ok [] := by
    simp only [MsktutilCall.hostnameParts, userKeytabCall, given_of_ne_nil hSome]
    rfl
  have hProgram : words posixShell (py "/usr/sbin/msktutil --update --dont-expire-password") =
      some [py "/usr/sbin/msktutil", py "--update", py "--dont-expire-password"] := by
    decide +kernel
  have hBase : words posixShell (py "--base OU=Users") = some [py "--base", py "OU=Users"] := by
    decide +kernel
  have hVerbose : words posixShell (py "--verbose") = some [py "--verbose"] := by decide +kernel
  have hFixed := (Reads.one hProgram).append ((Reads.one hBase).append (Reads.one hVerbose))
  have hParts := (reads_environmentParts kdcserver keytab username password hKrb5conf).append
    (hFixed.append hAccount)
  refine ⟨_, by rw [MsktutilCall.command, hHost]; rfl, words_join (by decide) ?_⟩
  simpa [msktutilWords, userKeytabCall, MsktutilCall.programParts, MsktutilCall.baseParts,
    MsktutilCall.verbosityParts, MsktutilCall.serviceParts, given] using hParts

theorem hostile_password_words :
    ∃ line, (userKeytabCall (py "/tmp/cgk.krb5.conf.1") (py "cerndc1.cern.ch")
        (py "/tmp/krb5cc/tmp1/keytab") (py "gstark") (py "it's \"a\"; $(b) \\")).command
          (fun _ => none) = .ok line ∧
      words posixShell line = some (msktutilWords (py "/tmp/cgk.krb5.conf.1")
        (py "cerndc1.cern.ch") (py "/tmp/krb5cc/tmp1/keytab") ++
          [py "--account-name", py "gstark", py "--old-account-password",
            py "it's \"a\"; $(b) \\"]) := by
  have hLiteral {text : PyStr} (h : text.all shlexSafe = true) :
      ∀ c ∈ text, Literal posixShell c :=
    fun c hMem => literal_of_shlexSafe (List.all_eq_true.mp h c hMem)
  exact msktutil_command_words rfl (by decide) (hLiteral (by decide +kernel))
    (hLiteral (by decide +kernel)) (hLiteral (by decide +kernel)) _

end Command

end Krb5TokenService.Minting
