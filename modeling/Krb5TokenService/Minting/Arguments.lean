import Krb5TokenService.CommandLine.Getopt
import Krb5TokenService.Kerberos.Name
import Krb5TokenService.Minting.Mint

/-! What `kinit` reads in the arguments that `mint_ticket` builds: its options,
its operand, and the principal that the operand names. -/
namespace Krb5TokenService.Minting

open Python CommandLine Kerberos

def dash : CodePoint := 0x2D

/-- `kinit`'s options, as far as the service uses them. -/
def kinitArity (c : CodePoint) : Option Arity :=
  if c ∈ py "clrt" then some .value
  else if c ∈ py "kR" then some .flag
  else none

def kinitArguments (argv : List PyStr) : Option (Arguments CodePoint) :=
  getopt dash kinitArity none argv.tail

/-- What `\n`, `\t`, `\b` and `\0` stand for in a principal name. -/
def escapedChar (c : CodePoint) : CodePoint :=
  if c = 0x6E then 0x0A
  else if c = 0x74 then 0x09
  else if c = 0x62 then 0x08
  else if c = 0x30 then 0x00
  else c

/-- `/`, `@` and the backslash. -/
def krb5Separators : Separators CodePoint := ⟨0x2F, 0x40, 0x5C, escapedChar⟩

/-- `krb5_parse_name`. -/
def parsePrincipal (text : PyStr) : Option (Name CodePoint) := parseName krb5Separators false text

section Usernames

variable {username : PyStr} {c : CodePoint}

theorem isUsernameChar_of_isLetter (h : isLetter c = true) : isUsernameChar c = true := by
  simp [isUsernameChar, h]

/-- No character of a username separates anything in a principal name. -/
theorem username_plain (h : validateUsername username = .ok ()) :
    Plain krb5Separators username := by
  obtain ⟨first, rest, rfl, hFirst, hRest⟩ := validateUsername_ok h
  have hChars : ∀ c ∈ first :: rest, isUsernameChar c = true := by
    simpa [isUsernameChar_of_isLetter hFirst] using hRest
  refine ⟨fun hMem => ?_, fun hMem => ?_, fun hMem => ?_⟩
  · exact absurd (hChars _ hMem) (by decide)
  · exact absurd (hChars _ hMem) (by decide)
  · exact absurd (hChars _ hMem) (by decide)

/-- A principal does not begin with a dash, so it is not read as an option. -/
theorem principal_not_option (h : validateUsername username = .ok ()) (realm : PyStr) :
    (username ++ py "@" ++ realm).head? ≠ some dash := by
  obtain ⟨first, rest, rfl, hFirst, -⟩ := validateUsername_ok h
  intro hDash
  obtain rfl : first = dash := Option.some.inj hDash
  exact absurd hFirst (by decide)

/-- The operand names the user in the realm that is written after it, and
nothing else. -/
theorem parsePrincipal_of_username (h : validateUsername username = .ok ()) (realm : PyStr) :
    parsePrincipal (username ++ py "@" ++ realm) =
      (parseRealm krb5Separators false realm).map fun realm => ⟨username, [], some realm⟩ := by
  have hText : username ++ py "@" ++ realm = username ++ krb5Separators.realm :: realm := by
    rw [List.append_assoc]
    rfl
  rw [parsePrincipal, hText]
  exact parseName_component (by decide) (by decide) (username_plain h)

end Usernames

section Kinit

variable (settings : Settings) {username : PyStr} (lifetime renewableLifetime : PyStr)
    (keytabMode : Bool) (tmpdir : PyStr)

/-- The options that `mint_ticket` means `kinit` to have. -/
def kinitOptions : List (Setting CodePoint) :=
  [(0x63, some (py "FILE:" ++ tmpdir ++ py "/ccache"))] ++
    (if keytabMode then [(0x6B, none), (0x74, some (tmpdir ++ py "/keytab"))] else []) ++
    [(0x6C, some lifetime), (0x72, some renewableLifetime)]

theorem kinitOptions_fit :
    ∀ setting ∈ kinitOptions lifetime renewableLifetime keytabMode tmpdir,
      Fits dash kinitArity setting := by
  have hValue : ∀ c ∈ py "clrt", ∀ value, Fits dash kinitArity (c, some value) := by
    intro c hMem value
    refine ⟨fun hDash => ?_, if_pos hMem⟩
    subst hDash
    exact absurd hMem (by decide)
  have hFlag : Fits dash kinitArity (0x6B, none) := ⟨by decide, by decide⟩
  intro setting hSetting
  simp only [kinitOptions, List.mem_append, List.mem_cons, List.not_mem_nil, or_false] at hSetting
  rcases hSetting with (rfl | hKeytab) | rfl | rfl
  · exact hValue _ (by decide) _
  · cases keytabMode with
    | false => simp at hKeytab
    | true =>
        simp only [if_true, List.mem_cons, List.not_mem_nil, or_false] at hKeytab
        rcases hKeytab with rfl | rfl
        · exact hFlag
        · exact hValue _ (by decide) _
  · exact hValue _ (by decide) _
  · exact hValue _ (by decide) _

variable (username) in
theorem kinitSpec_argv (stdin : Option Bytes) :
    (kinitSpec settings username lifetime renewableLifetime keytabMode stdin tmpdir).argv.tail =
      (kinitOptions lifetime renewableLifetime keytabMode tmpdir).flatMap (render dash) ++
        [username ++ py "@" ++ settings.defaultRealm] := by
  cases keytabMode <;> rfl

theorem kinitSpec_arguments (h : validateUsername username = .ok ()) (stdin : Option Bytes) :
    kinitArguments
        (kinitSpec settings username lifetime renewableLifetime keytabMode stdin tmpdir).argv =
      some ⟨kinitOptions lifetime renewableLifetime keytabMode tmpdir,
        [username ++ py "@" ++ settings.defaultRealm]⟩ := by
  rw [kinitArguments, kinitSpec_argv]
  refine getopt_render (kinitOptions_fit lifetime renewableLifetime keytabMode tmpdir)
    fun operand hOperand => ?_
  obtain rfl := List.mem_singleton.mp hOperand
  exact principal_not_option h settings.defaultRealm

theorem renewSpec_arguments :
    kinitArguments (renewSpec settings tmpdir).argv =
      some ⟨[(0x52, none), (0x63, some (py "FILE:" ++ tmpdir ++ py "/ccache"))], []⟩ := by
  have hFits : ∀ setting ∈ [((0x52 : CodePoint), (none : Option PyStr)),
      (0x63, some (py "FILE:" ++ tmpdir ++ py "/ccache"))], Fits dash kinitArity setting := by
    intro setting hSetting
    simp only [List.mem_cons, List.not_mem_nil, or_false] at hSetting
    rcases hSetting with rfl | rfl
    · exact ⟨by decide, by decide⟩
    · exact ⟨by decide, by decide⟩
  have hNone : ∀ operand ∈ ([] : List PyStr), operand.head? ≠ some dash := by simp
  exact getopt_render hFits hNone

/-- For an accepted username `kinit` reads its own cache, the two lifetimes, in
keytab mode the keytab, and one operand, which names that user in the default
realm. The lifetimes and the directory may be any. -/
theorem kinit_reads_request (h : validateUsername username = .ok ()) (stdin : Option Bytes) :
    kinitArguments
        (kinitSpec settings username lifetime renewableLifetime keytabMode stdin tmpdir).argv =
      some ⟨kinitOptions lifetime renewableLifetime keytabMode tmpdir,
        [username ++ py "@" ++ settings.defaultRealm]⟩ ∧
      (Plain krb5Separators settings.defaultRealm →
        parsePrincipal (username ++ py "@" ++ settings.defaultRealm) =
          some ⟨username, [], some settings.defaultRealm⟩) := by
  refine ⟨kinitSpec_arguments settings lifetime renewableLifetime keytabMode tmpdir h stdin,
    fun hRealm => ?_⟩
  rw [parsePrincipal_of_username h, parseRealm_plain hRealm]
  rfl

theorem gstark_read :
    kinitArguments
        (kinitSpec {} (py "gstark") (py "24h") (py "7d") true none (py "/tmp/krb5cc/tmp1")).argv =
      some ⟨[(0x63, some (py "FILE:/tmp/krb5cc/tmp1/ccache")), (0x6B, none),
        (0x74, some (py "/tmp/krb5cc/tmp1/keytab")), (0x6C, some (py "24h")),
        (0x72, some (py "7d"))], [py "gstark@CERN.CH"]⟩ ∧
      parsePrincipal (py "gstark@CERN.CH") = some ⟨py "gstark", [], some (py "CERN.CH")⟩ := by
  have hValid : validateUsername (py "gstark") = .ok () := rfl
  obtain ⟨hArguments, hPrincipal⟩ := kinit_reads_request {} (py "24h") (py "7d") true
    (py "/tmp/krb5cc/tmp1") hValid none
  exact ⟨hArguments, hPrincipal ⟨by decide, by decide, by decide⟩⟩

end Kinit

end Krb5TokenService.Minting
