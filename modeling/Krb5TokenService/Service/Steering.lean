import Krb5TokenService.Python.Utf8
import Krb5TokenService.Service.Limited
import Krb5TokenService.Text.Template

/-! What the choice of a username does to the reading of a child's stderr:
nothing, where the child prints the principal in quotes. -/
namespace Krb5TokenService.Minting

open Python

/-- `os.fsencode` of a string it accepts, as it encodes the arguments of a
child: UTF-8, and one byte for each surrogate that stands for a byte. -/
def fsencode (s : PyStr) : Bytes :=
  s.flatMap fun c =>
    if 0xDC80 ≤ c.val ∧ c.val ≤ 0xDCFF then [UInt8.ofNat (c.val - 0xDC00)] else utf8 c

/-- The principal as `kinit` prints it. -/
def quotedPrincipal (username realm : PyStr) : Bytes :=
  0x27 :: fsencode (username ++ py "@" ++ realm) ++ [0x27]

/-- An stderr made of literal segments, with the principal between any two. -/
def printed (segments : List Bytes) (username realm : PyStr) : Bytes :=
  (quotedPrincipal username realm).intercalate segments

/-- Several words, with no quote among them and no space around them. -/
def isPhrase (marker : PyStr) : Bool :=
  decide (0x20 ∈ marker ∧ 0x27 ∉ marker) && marker.head?.any (!isSpace ·) &&
    marker.getLast?.any (!isSpace ·)

section Printed

theorem mem_of_mem_fsencode {a : UInt8} (hAscii : a < 0x80) {s : PyStr} (hMem : a ∈ fsencode s) :
    CodePoint.ofNat a.toNat ∈ s := by
  obtain ⟨c, hChar, hByte⟩ := List.mem_flatMap.mp hMem
  split at hByte
  · next hEscape =>
      rw [UInt8.lt_iff_toNat_lt, List.mem_singleton.mp hByte, toNat_byte (by omega)] at hAscii
      simp only [UInt8.reduceToNat] at hAscii
      omega
  · rwa [← val_of_mem_utf8 hAscii hByte, CodePoint.ofNat_val]

theorem username_no_space {username : PyStr} (h : validateUsername username = .ok ()) :
    0x20 ∉ username := by
  obtain ⟨first, rest, rfl, hFirst, hRest⟩ := validateUsername_ok h
  intro hMem
  rcases List.mem_cons.mp hMem with rfl | hLater
  · exact absurd hFirst (by decide)
  · exact absurd (hRest _ hLater) (by decide)

theorem principal_no_space {username realm : PyStr} (hUser : validateUsername username = .ok ())
    (hRealm : 0x20 ∉ realm) :
    0x20 ∉ Bytes.decodeReplace (fsencode (username ++ py "@" ++ realm)) := by
  intro hMem
  have hBytes := mem_of_mem_decodeReplace (by decide) hMem
  have hText := mem_of_mem_fsencode (by decide) hBytes
  rcases List.mem_append.mp hText with hBefore | hMem
  · rcases List.mem_append.mp hBefore with hMem | hMem
    · exact username_no_space hUser hMem
    · exact absurd hMem (by decide)
  · exact hRealm hMem

variable {marker : PyStr} (hPhrase : isPhrase marker = true)

include hPhrase

theorem infix_strip_iff (text : PyStr) : marker <:+: text.strip ↔ marker <:+: text := by
  simp only [isPhrase, Bool.and_eq_true] at hPhrase
  refine Template.infix_trim_iff ?_ ?_ text
  · cases marker with
    | nil => simp at hPhrase
    | cons m tail => exact ⟨m, tail, rfl, by simpa using hPhrase.1.2⟩
  · rcases List.eq_nil_or_concat' marker with rfl | ⟨front, m, rfl⟩
    · simp at hPhrase
    · exact ⟨front, m, rfl, by simpa using hPhrase.2⟩

/-- What a printed stderr mentions is in one of its literal segments. -/
theorem contains_printed {username realm : PyStr} (hUser : validateUsername username = .ok ())
    (hRealm : 0x20 ∉ realm) (segments : List Bytes) :
    (stderrText (printed segments username realm)).contains marker =
      (segments.map Bytes.decodeReplace).any fun segment => PyStr.contains segment marker := by
  have hWords : 0x20 ∈ marker ∧ 0x27 ∉ marker := by
    simp only [isPhrase, Bool.and_eq_true, decide_eq_true_iff] at hPhrase
    exact hPhrase.1.1
  rw [Bool.eq_iff_iff, PyStr.contains, decide_eq_true_iff, stderrText,
    infix_strip_iff hPhrase, printed, quotedPrincipal, decodeReplace_intercalate (by decide)]
  simp only [List.any_eq_true, PyStr.contains, decide_eq_true_iff]
  exact Template.infix_intercalate_iff hWords.2 hWords.1 (principal_no_space hUser hRealm) _

omit hPhrase in
theorem mentions_printed {username realm : PyStr} (hUser : validateUsername username = .ok ())
    (hRealm : 0x20 ∉ realm) {markers : List PyStr} (hPhrases : markers.all isPhrase = true)
    (segments : List Bytes) :
    mentions (stderrText (printed segments username realm)) markers =
      (segments.map Bytes.decodeReplace).any fun segment => mentions segment markers := by
  have hEach : ∀ marker ∈ markers,
      (stderrText (printed segments username realm)).contains marker =
        (segments.map Bytes.decodeReplace).any fun segment => PyStr.contains segment marker :=
    fun marker hMarker =>
      contains_printed (List.all_eq_true.mp hPhrases marker hMarker) hUser hRealm segments
  rw [Bool.eq_iff_iff]
  simp only [mentions, List.any_eq_true]
  constructor
  · rintro ⟨marker, hMarker, hContains⟩
    rw [hEach marker hMarker, List.any_eq_true] at hContains
    obtain ⟨segment, hSegment, hFound⟩ := hContains
    exact ⟨segment, hSegment, marker, hMarker, hFound⟩
  · rintro ⟨segment, hSegment, marker, hMarker, hFound⟩
    refine ⟨marker, hMarker, ?_⟩
    rw [hEach marker hMarker, List.any_eq_true]
    exact ⟨segment, hSegment, hFound⟩

end Printed

section Classes

variable {first second realm : PyStr}

/-- Two usernames give texts that mention the same markers. -/
theorem mentions_same (hFirst : validateUsername first = .ok ())
    (hSecond : validateUsername second = .ok ()) (hRealm : 0x20 ∉ realm)
    {markers : List PyStr} (hPhrases : markers.all isPhrase = true) (segments : List Bytes) :
    mentions (stderrText (printed segments first realm)) markers =
      mentions (stderrText (printed segments second realm)) markers := by
  rw [mentions_printed hFirst hRealm hPhrases, mentions_printed hSecond hRealm hPhrases]

/-- The four classifiers of `minting.py`. -/
def classifiers : List (PyStr → Option PyExc) :=
  [classifyPasswordStderr, classifyKeytabStderr, classifyRenewStderr,
    classifyCernGetKeytabStderr]

theorem classify_same (hFirst : validateUsername first = .ok ())
    (hSecond : validateUsername second = .ok ()) (hRealm : 0x20 ∉ realm) (segments : List Bytes)
    {classify : PyStr → Option PyExc} (hClassify : classify ∈ classifiers) :
    classify (stderrText (printed segments first realm)) =
      classify (stderrText (printed segments second realm)) := by
  have hSame {markers : List PyStr} (hPhrases : markers.all isPhrase = true) :=
    mentions_same hFirst hSecond hRealm hPhrases segments
  have hBadKey : badKeyMarkers.all isPhrase = true := by decide
  have hUnknown : unknownPrincipalMarkers.all isPhrase = true := by decide
  have hRevoked : revokedMarkers.all isPhrase = true := by decide
  simp only [classifiers, List.mem_cons, List.not_mem_nil, or_false] at hClassify
  rcases hClassify with rfl | rfl | rfl | rfl
  · have hBadPassword : badPasswordMarkers.all isPhrase = true := by decide
    have hExpired : passwordExpiredMarkers.all isPhrase = true := by decide
    simp only [classifyPasswordStderr, hSame hBadPassword, hSame hUnknown, hSame hRevoked,
      hSame hExpired]
  · simp only [classifyKeytabStderr, hSame hBadKey, hSame hUnknown, hSame hRevoked]
  · have hTicket : ticketExpiredMarkers.all isPhrase = true := by decide
    simp only [classifyRenewStderr, hSame hTicket]
  · have hSummary : (badKeyMarkers ++ noCredentialsMarkers).all isPhrase = true := by decide
    simp only [classifyCernGetKeytabStderr, hSame hSummary]

end Classes

end Krb5TokenService.Minting

namespace Krb5TokenService.Service

open Python EventLoop Minting

theorem badPasswordExit_exited {classify : PyStr → Option PyExc} {returncode : ℤ}
    {stdout stderr : Bytes} {output : Option Bytes} :
    BadPasswordExit classify (.exited returncode stdout stderr output) ↔
      returncode ≠ 0 ∧ ∃ message, classify (stderrText stderr) = some (.badPassword message) := by
  constructor
  · rintro ⟨_, _, _, _, message, hReply, hStatus, hClass⟩
    cases hReply
    exact ⟨hStatus, message, hClass⟩
  · rintro ⟨hStatus, message, hClass⟩
    exact ⟨returncode, stdout, stderr, output, message, rfl, hStatus, hClass⟩

theorem Endpoint.classifier_mem (endpoint : Endpoint) : endpoint.classifier ∈ classifiers := by
  cases endpoint with
  | mint body =>
      cases hMode : body.password.isNone with
      | true => simp [classifier, classifierOf, classifiers, hMode]
      | false => simp [classifier, classifierOf, classifiers, hMode]
  | renew body => simp [classifier, classifiers]
  | keytab body => simp [classifier, classifiers]

/-- The choice of a username steers no classifier: in an stderr of any literal
segments, with the principal in quotes between any two, every classifier finds
the same for any two usernames. So a request for the one is counted as a bad
password exactly when a request for the other is. The realm may hold quotes. -/
theorem username_steers_no_classifier (d : Deployment) (hRealm : 0x20 ∉ d.settings.defaultRealm)
    {first second : PyStr} (hFirst : validateUsername first = .ok ())
    (hSecond : validateUsername second = .ok ()) (segments : List Bytes) :
    (∀ classify ∈ classifiers,
      classify (stderrText (printed segments first d.settings.defaultRealm)) =
        classify (stderrText (printed segments second d.settings.defaultRealm))) ∧
    ∀ (job other : Job) (returncode : ℤ) (stdout stdout' : Bytes) (output output' : Option Bytes),
      job.endpoint.passwordUser = some first → other.endpoint.passwordUser = some second →
      job.endpoint.classifier = other.endpoint.classifier → job.env.rmtree = other.env.rmtree →
      ((job.plan d).ending (.exited returncode stdout
          (printed segments first d.settings.defaultRealm) output) = .bad ↔
        (other.plan d).ending (.exited returncode stdout'
          (printed segments second d.settings.defaultRealm) output') = .bad) := by
  have hSame {classify : PyStr → Option PyExc} (hClassify : classify ∈ classifiers) :=
    classify_same hFirst hSecond hRealm segments hClassify
  refine ⟨fun classify hClassify => hSame hClassify, ?_⟩
  intro job other returncode stdout stdout' output output' hUser hOther hClassifier hRemoval
  rw [job.ending_bad_iff d hUser, other.ending_bad_iff d hOther, badPasswordExit_exited,
    badPasswordExit_exited, hSame job.endpoint.classifier_mem, hClassifier, hRemoval]

/-- A request to mint a ticket for this user, by password. -/
def steeringJob (username : PyStr) : Job :=
  ⟨sampleEnv, sampleRequest, .mint ⟨username, some (py "secret"), none, none, none,
    Bool.false_ne_true⟩⟩

/-- `kinit`'s line about a principal that the database lacks. -/
def clientSegments : List Bytes :=
  [sampleStderr "kinit: Client ", sampleStderr " not found in Kerberos database while getting"]

theorem username_steers_no_classifier_sample :
    ((sampleJob sampleEnv).plan sampleDeployment).ending
        (.exited 1 [] (printed clientSegments (py "gstark") (py "CERN.CH")) none) = .bad ↔
      ((steeringJob (py "Password-incorrect")).plan sampleDeployment).ending
        (.exited 1 [] (printed clientSegments (py "Password-incorrect") (py "CERN.CH")) none) =
          .bad :=
  (username_steers_no_classifier sampleDeployment (by decide) (by rfl) (by rfl)
    clientSegments).2 (sampleJob sampleEnv) (steeringJob (py "Password-incorrect")) 1 [] [] none
    none rfl rfl rfl rfl

end Krb5TokenService.Service
