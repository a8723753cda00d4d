import Noticeboard.Http.Reference
import Noticeboard.Proofs.Http.International

/-!
The host of a reference. Unless it is an address in brackets, it has only characters that end no
host, so that it is read off where it is sent; and what is wrong with a host that is sent was
written so.
-/

namespace Noticeboard.Http

namespace Host

open International (IsPlain)

theorem isPlain_of_isDigit {c : Char} (h : isDigit c) : IsPlain c := by
  rw [isDigit, Text.asciiDigit?] at h
  split at h
  · next hdigit => exact .inr (.inl (by simpa [Char.isDigit, Char.le_def] using hdigit))
  · cases h

theorem mem_of_isQuad {cs : List Char} (h : isQuad cs) {c : Char} (hc : c ∈ cs) :
    IsPlain c ∨ c = '.' := by
  simp only [isQuad, Bool.and_eq_true, List.all_eq_true] at h
  rcases Text.Percent.mem_pieces hc with hpoint | ⟨piece, hpiece, hc⟩
  · exact .inr hpoint
  · have hoctet := h.2 piece hpiece
    simp only [isOctet, Bool.and_eq_true, List.all_eq_true] at hoctet
    exact .inl (isPlain_of_isDigit (hoctet.1.1.2 c hc))

/-- How a host is read: addresses stand as they are written, and a name is sent in ASCII. -/
theorem read?_cases {cs host : List Char} (h : read? cs = some host) :
    host = cs ∧ isQuad cs ∨ host = cs ∧ cs.head? = some '[' ∨
      cs.all Text.Punycode.isBasic ∧
        host = Text.Percent.encodeExcept keptInName (cs.map Char.toLower) ∨
      cs.all Text.Punycode.isBasic = false ∧ International.encode cs = .ok host := by
  rw [read?] at h
  split at h
  · split at h
    · next hquad => exact .inl ⟨(Option.some.inj h).symm, hquad⟩
    · cases h
  · split at h
    · next hbrackets =>
        split at h
        · simp only [Bool.and_eq_true, decide_eq_true_eq] at hbrackets
          exact .inr (.inl ⟨(Option.some.inj h).symm, hbrackets.1⟩)
        · cases h
    · split at h
      · next hbasic => exact .inr (.inr (.inl ⟨hbasic, (Option.some.inj h).symm⟩))
      · next hbasic =>
          refine .inr (.inr (.inr ⟨Bool.eq_false_iff.mpr hbasic, ?_⟩))
          cases hencode : International.encode cs with
          | error fault =>
              rw [hencode] at h
              cases h
          | ok name =>
              rw [hencode] at h
              exact congrArg Except.ok (Option.some.inj h)

theorem keptInName_of_isPlain {c : Char} (h : IsPlain c ∨ c = '.') : keptInName c := by
  rcases h with h | rfl
  · rcases h.isAlphanum with h | rfl
    · simp [keptInName, h]
    · decide
  · decide

/-- A host that is read is an address in brackets, as it is written, or has characters of names. -/
theorem mem_of_read? {cs host : List Char} (h : read? cs = some host) :
    host = cs ∧ cs.head? = some '[' ∨ ∀ c ∈ host, keptInName c := by
  rcases read?_cases h with ⟨rfl, hquad⟩ | hbracket | ⟨-, rfl⟩ | ⟨-, hencode⟩
  · exact .inr fun c hc => keptInName_of_isPlain (mem_of_isQuad hquad hc)
  · exact .inl hbracket
  · refine .inr fun c hc => ?_
    rcases Text.Percent.mem_encodeExcept hc with hc | rfl | hc
    · exact hc
    · decide
    · simp [keptInName, hc]
  · exact .inr fun c hc => keptInName_of_isPlain (International.mem_of_encode hencode hc)

/-- A host that was not written in ASCII passes the checks of one that is asked for. -/
theorem check_of_read? {cs host : List Char} (h : read? cs = some host)
    (hwritten : cs.all Text.Punycode.isBasic = false)
    (hmark : host.take International.mark.length = International.mark) :
    International.check host = .ok () := by
  rcases read?_cases h with ⟨rfl, hquad⟩ | ⟨rfl, hbracket⟩ | ⟨hbasic, -⟩ | ⟨-, hencode⟩
  · have hbasic : host.all Text.Punycode.isBasic := List.all_eq_true.mpr fun c hc =>
      decide_eq_true (International.ascii_of_isPlain (mem_of_isQuad hquad hc)).1
    cases hwritten.symm.trans hbasic
  · cases host with
    | nil => cases hbracket
    | cons c cs =>
        cases hbracket
        cases hmark
  · cases hwritten.symm.trans hbasic
  · exact International.check_of_encode hencode

end Host

namespace Reference

/-- The host of a reference as it is written. -/
def writtenHost (s : String) : List Char :=
  (cutHost (cutAccount (cutAuthority (cutScheme (s.toList.takeWhile (· ≠ '#'))).2).1).2).1

variable {s : String} {r : Reference}

theorem ofParts?_eq {parts : Reference} (h : ofParts? parts = some r) : parts = r := by
  rw [ofParts?] at h
  split at h
  · cases h
  · split at h
    · exact Option.some.inj h
    · cases h

theorem host_of_read? (h : read? s = some r) : Host.read? (writtenHost s) = some r.host := by
  rw [read?] at h
  dsimp only at h
  split at h
  · next host port _ hhost _ =>
      have hparts := ofParts?_eq h
      rw [writtenHost, hhost, ← hparts]
      split <;> rfl
  · cases h

/-- What ends a host does not stand in one, but in an address in brackets. -/
theorem not_mem_host (h : read? s = some r) (hname : r.host.head? ≠ some '[') {mark : Char}
    (hmark : Host.keptInName mark = false) : mark ∉ r.host := by
  rcases Host.mem_of_read? (host_of_read? h) with ⟨heq, hbracket⟩ | hall
  · exact absurd (heq ▸ hbracket) hname
  · exact fun hmem => Bool.false_ne_true (hmark.symm.trans (hall mark hmem))

/-- Only a host that is written in ASCII can be found wrong where it is sent. -/
theorem isBasic_of_hostFault? (h : read? s = some r) {fault : International.Fault}
    (hfault : r.hostFault? = some fault) : (writtenHost s).all Text.Punycode.isBasic := by
  rw [hostFault?] at hfault
  split at hfault
  · next hmark =>
      simp only [Bool.and_eq_true, decide_eq_true_eq] at hmark
      cases hwritten : (writtenHost s).all Text.Punycode.isBasic with
      | true => rfl
      | false =>
          rw [Host.check_of_read? (host_of_read? h) hwritten hmark.2] at hfault
          cases hfault
  · cases hfault

end Reference

end Noticeboard.Http
