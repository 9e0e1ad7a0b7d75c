import CallMap.Proofs.Offence

/-!
# Running out of memory

Room for a text is made before any of its bytes is read, and as much of it as the header announces.
So a header can ask for more memory than can be addressed, however short the file is. Decoding a
file ends neither with a result nor with a failure to report then, and in no other way, as long as
there is room for everything that can be addressed: a smaller text is always taken to fit (see
`Reader.addressLimit`), although a machine may have less memory than it asks for.

* `Occurrence.Announces`: a header and the number of bytes that it announces.
* `Contribution.Reached`: reading gets to a record.
* `Occurrence.offends_outOfMemory_iff`: only such a header is at fault in this way.
* `Contribution.ofBytes_reports_unless_oversized`: when decoding ends with a report, and what
  becomes of a text that the file is too short for.
-/

namespace CallMap

namespace Occurrence

variable {tokenizer : Tokenizer} {file : String} {occurrence : Occurrence}

/-- The record is the header of a text, and this is the number of bytes it announces. -/
def Announces (occurrence : Occurrence) (length : Nat) : Prop :=
  occurrence.record.tag = .text ∧
    Reader.textLength? (Text.trim occurrence.record.name) = some length

/-- Memory runs out at a header that announces at least as many bytes as there are addresses. -/
theorem offends_outOfMemory_iff : occurrence.Offends tokenizer file .outOfMemory ↔
    ∃ length, occurrence.Announces length ∧ Reader.addressLimit ≤ length := by
  constructor
  · intro h
    -- The other faults are failures that can be reported.
    cases h with
    | text htag hfault =>
      cases hfault with
      | oversized hcount haddress => exact ⟨_, ⟨htag, hcount⟩, haddress⟩
  · rintro ⟨length, ⟨htag, hcount⟩, haddress⟩
    exact .text htag (.oversized hcount haddress)

end Occurrence

namespace Contribution

variable {tokenizer : Tokenizer} {file : String} {bytes : List UInt8} {occurrence : Occurrence}

/-- The record stands in the file, and no record before it is at fault. -/
structure Reached (tokenizer : Tokenizer) (file : String) (bytes : List UInt8)
    (occurrence : Occurrence) : Prop where
  stands : occurrence.In bytes
  clean {other : Occurrence} {reason : Halt} : other.In bytes →
    other.before.length < occurrence.before.length → ¬other.Offends tokenizer file reason

/-- The earliest record at fault is reached. -/
theorem IsEarliest.reached {reason : Halt} (h : IsEarliest tokenizer file bytes occurrence reason) :
    Reached tokenizer file bytes occurrence := by
  refine ⟨h.1, fun hin hshorter hoffends => ?_⟩
  exact absurd (h.2.2 _ hin ⟨_, hoffends⟩) (Nat.not_le.mpr hshorter)

/-- A record that is reached and is at fault decides how decoding ends. -/
theorem Reached.outcome {reason : Halt} (h : Reached tokenizer file bytes occurrence)
    (hoffends : occurrence.Offends tokenizer file reason) :
    (ofBytes tokenizer file bytes).outcome = .error reason :=
  ofBytes_eq_error_of_offends h.stands hoffends fun _ hin hshorter _ => h.clean hin hshorter

/-- Decoding runs out of memory exactly at a header of this kind that it gets to. -/
theorem outcome_eq_outOfMemory_iff : (ofBytes tokenizer file bytes).outcome = .error .outOfMemory ↔
    ∃ occurrence length, Reached tokenizer file bytes occurrence ∧ occurrence.Announces length ∧
      Reader.addressLimit ≤ length := by
  constructor
  · intro h
    obtain ⟨occurrence, hearliest⟩ := exists_isEarliest_of_error h
    obtain ⟨length, hlength⟩ := Occurrence.offends_outOfMemory_iff.mp hearliest.2.1
    exact ⟨occurrence, length, hearliest.reached, hlength⟩
  · rintro ⟨occurrence, length, hreached, hlength⟩
    exact hreached.outcome (Occurrence.offends_outOfMemory_iff.mpr ⟨length, hlength⟩)

/-- Decoding ends with a report: with a result, or with a failure that says what is wrong. -/
def Reports (tokenizer : Tokenizer) (file : String) (bytes : List UInt8) : Prop :=
  (∃ contribution, (ofBytes tokenizer file bytes).outcome = .ok contribution) ∨
    ∃ failure, (ofBytes tokenizer file bytes).outcome = .error (.failed failure)

/-- Decoding reports something unless memory runs out. -/
theorem reports_iff_ne_outOfMemory : Reports tokenizer file bytes ↔
    (ofBytes tokenizer file bytes).outcome ≠ .error .outOfMemory := by
  unfold Reports
  rcases (ofBytes tokenizer file bytes).outcome with (failure | _) | contribution <;> simp

/-- How decoding a file ends, as far as the lengths of its texts are concerned. -/
structure ReportsUnlessOversized (tokenizer : Tokenizer) (file : String) (bytes : List UInt8) :
    Prop where
  /-- There is a report if and only if every header that reading gets to announces a length that can
  be addressed. -/
  reports_iff : Reports tokenizer file bytes ↔
    ∀ occurrence length, Reached tokenizer file bytes occurrence → occurrence.Announces length →
      length < Reader.addressLimit
  /-- If there is no report, then memory has run out at the one header that asks for too much. -/
  exhausts_iff : ¬Reports tokenizer file bytes ↔
    (ofBytes tokenizer file bytes).outcome = .error .outOfMemory
  /-- A text that can be addressed and that the file is too short for is reported as such, with the
  number of bytes announced and the number of bytes left. -/
  short {occurrence : Occurrence} {length : Nat} : Reached tokenizer file bytes occurrence →
    occurrence.Announces length → occurrence.rest.length < length → length < Reader.addressLimit →
      (ofBytes tokenizer file bytes).outcome =
        .error (.failed (.shortText file length occurrence.rest.length))
  /-- A text that cannot be addressed is never reported, however many bytes are left. -/
  oversized {occurrence : Occurrence} {length : Nat} : Reached tokenizer file bytes occurrence →
    occurrence.Announces length → Reader.addressLimit ≤ length →
      (ofBytes tokenizer file bytes).outcome = .error .outOfMemory

/-- Decoding ends with a report, unless it gets to a header that announces more bytes than memory
can hold. -/
theorem ofBytes_reports_unless_oversized (tokenizer : Tokenizer) (file : String)
    (bytes : List UInt8) : ReportsUnlessOversized tokenizer file bytes := by
  constructor
  case reports_iff =>
    rw [reports_iff_ne_outOfMemory, Ne, outcome_eq_outOfMemory_iff]
    push Not
    rfl
  case exhausts_iff => rw [reports_iff_ne_outOfMemory, Ne, not_not]
  case short =>
    -- Where the bytes are too few but have addresses, the text is reported as too short.
    intro occurrence length hreached hannounces hshort haddress
    exact hreached.outcome (.text hannounces.1 (.short hannounces.2 haddress hshort))
  case oversized =>
    intro occurrence length hreached hannounces haddress
    exact outcome_eq_outOfMemory_iff.mpr ⟨occurrence, length, hreached, hannounces, haddress⟩

/-- A header that announces the least number of bytes that cannot be addressed, in a file that has
six bytes left. -/
def sampleOversized : List UInt8 :=
  Tag.bytes "TXT,132,9223372036854775808,\nshort\n"

/-- The header of the sample, with nothing before it. -/
def sampleHeader : Occurrence :=
  ⟨[], Reader.firstRecord sampleOversized, Reader.afterLine sampleOversized⟩

unseal Reader.lengthLimit in
/-- The header announces 2^63 bytes. -/
theorem announces_sampleHeader : sampleHeader.Announces 9223372036854775808 := by
  constructor <;> decide +kernel

/-- Nothing before the header is at fault. -/
theorem reached_sampleHeader (tokenizer : Tokenizer) :
    Reached tokenizer "test.txt" sampleOversized sampleHeader := by
  refine ⟨⟨sampleOversized, .start, by decide, rfl, rfl⟩, ?_⟩
  intro other reason _ hshorter
  exact absurd hshorter (Nat.not_lt_zero _)

/-- The text is too long for the file, and yet that is not what comes out: there is no report at
all. -/
theorem no_report_sampleOversized :
    Reached Lexer.tokenize "test.txt" sampleOversized sampleHeader ∧
      sampleHeader.Announces 9223372036854775808 ∧ sampleHeader.rest.length = 6 ∧
        (ofBytes Lexer.tokenize "test.txt" sampleOversized).outcome = .error .outOfMemory ∧
          ¬Reports Lexer.tokenize "test.txt" sampleOversized := by
  have hreached := reached_sampleHeader Lexer.tokenize
  have haddress : Reader.addressLimit ≤ 9223372036854775808 := by
    unfold Reader.addressLimit
    decide
  have hout := outcome_eq_outOfMemory_iff.mpr
    ⟨sampleHeader, _, hreached, announces_sampleHeader, haddress⟩
  exact ⟨hreached, announces_sampleHeader, by decide +kernel, hout,
    fun h => reports_iff_ne_outOfMemory.mp h hout⟩

end Contribution

end CallMap
