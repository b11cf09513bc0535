import JenkinsOperator.Proofs.DeployKey.Base64
import JenkinsOperator.Proofs.DeployKey.Marker
import JenkinsOperator.Proofs.Text.Bytes
import Mathlib.Data.Bool.AllAny
import Mathlib.Data.List.Chain
import Mathlib.Data.List.TakeWhile

/-!
# Complete blocks

Which texts have a block with a payload in them (`HasBlock`): the sections of its first block stand
between the markers (`Frame`), and they read as a tag, headers with colons, and the payload in
canonical Base64 with blanks anywhere (`Sections.Reads`). A payload is read from these texts and
from no others (`payload_eq_ok_iff`), and each has one payload.

Payloads that are written as blocks, in lines of any width, are among them (`hasBlock_render`).
-/

namespace JenkinsOperator.Pem

/-! ## Frames -/

/-- The headers of a body end at its first empty line, if there is one. -/
inductive Divided (body : List UInt8) : List UInt8 → List UInt8 → Prop where
  | lf {headers text : List UInt8} : Found (ascii "\n\n") body headers text →
      Divided body headers text
  | crlf {headers text : List UInt8} : (∀ before rest, ¬ Found (ascii "\n\n") body before rest) →
      Found (ascii "\r\n\r\n") body headers text → Divided body headers text
  | headless : (∀ before rest, ¬ Found (ascii "\n\n") body before rest) →
      (∀ before rest, ¬ Found (ascii "\r\n\r\n") body before rest) → Divided body [] body

/-- The sections of the first block in a text, and what stands around and between them. -/
structure Frame (input : List UInt8) (s : Sections) (before blanks body after : List UInt8) :
    Prop where
  whole : input = before ++ ascii "-----BEGIN " ++ (s.beginTag ++ ascii "-----" ++
    (blanks ++ (body ++ ascii "-----END " ++ (s.endTag ++ ascii "-----" ++ after))))
  /-- It is the first block. -/
  first : Skipped (ascii "-----BEGIN ") before
  beginTag : Skipped (ascii "-----") s.beginTag
  /-- All blanks in front of the body are skipped. -/
  allBlank : ∀ b ∈ blanks, isBlankByte b = true
  solid : ∀ b, body.head? = some b → isBlankByte b = false
  ends : Skipped (ascii "-----END ") body
  endTag : Skipped (ascii "-----") s.endTag
  divided : Divided body s.headers s.payload

variable {input payload bytes before blanks body after headers text : List UInt8} {s : Sections}

/-- A body is divided at its first empty line of line feeds, or else at one with carriage returns. -/
theorem headersAndPayload_eq_iff :
    headersAndPayload body = (headers, text) ↔ Divided body headers text := by
  rw [headersAndPayload]
  cases lf : until? (ascii "\n\n") body with
  | some parts =>
    have found := until?_eq_some_iff.1 lf
    constructor
    · rintro rfl
      exact .lf found
    · intro divided
      cases divided with
      | lf found' => exact Option.some.inj (lf.symm.trans (until?_eq_some_iff.2 found'))
      | crlf none => exact absurd found (none _ _)
      | headless none => exact absurd found (none _ _)
  | none =>
    have none := until?_eq_none_iff.1 lf
    cases crlf : until? (ascii "\r\n\r\n") body with
    | some parts =>
      have found := until?_eq_some_iff.1 crlf
      constructor
      · rintro rfl
        exact .crlf none found
      · intro divided
        cases divided with
        | lf found' => exact absurd found' (none _ _)
        | crlf _ found' => exact Option.some.inj (crlf.symm.trans (until?_eq_some_iff.2 found'))
        | headless _ none' => exact absurd found (none' _ _)
    | none =>
      have none' := until?_eq_none_iff.1 crlf
      constructor
      · intro same
        obtain ⟨rfl, rfl⟩ := Prod.mk.inj same
        exact .headless none none'
      · intro divided
        cases divided with
        | lf found' => exact absurd found' (none _ _)
        | crlf _ found' => exact absurd found' (none' _ _)
        | headless => rfl

/-- Blanks are skipped up to a byte that is not blank. -/
theorem dropWhile_blanks {rest : List UInt8} (all : ∀ b ∈ blanks, isBlankByte b = true)
    (solid : ∀ b, rest.head? = some b → isBlankByte b = false) :
    (blanks ++ rest).dropWhile isBlankByte = rest := by
  rw [List.dropWhile_append_of_pos all]
  cases rest with
  | nil => rfl
  | cons b rest => rw [List.dropWhile_cons_of_neg (by simp [solid b rfl])]

/-- The sections that are read of a text are those of a frame of it. -/
theorem sections?_eq_some_iff :
    sections? input = some s ↔
      ∃ before blanks body after, Frame input s before blanks body after := by
  simp only [sections?, Option.bind_eq_bind, Option.bind_eq_some_iff, Prod.exists,
    until?_eq_some_iff]
  constructor
  · rintro ⟨before, rest, atBegin, beginTag, rest', atDashes, body, rest'', atEnd, endTag, after,
      atDashes', same⟩
    obtain rfl := Option.some.inj same
    -- The blanks in front of the body are those that were skipped.
    refine ⟨before, rest'.takeWhile isBlankByte, body, after, ?_⟩
    have skipped : rest'.takeWhile isBlankByte ++ rest'.dropWhile isBlankByte = rest' :=
      List.takeWhile_append_dropWhile
    exact {
      whole := by
        dsimp only
        rw [← atDashes'.whole, ← atEnd.whole, skipped, ← atDashes.whole, ← atBegin.whole]
      first := atBegin.skipped
      beginTag := atDashes.skipped
      allBlank := fun b member => List.mem_takeWhile_imp member
      solid := by
        intro b front
        have solid := List.head?_dropWhile_not isBlankByte rest'
        rw [atEnd.whole, List.append_assoc, List.head?_append, front] at solid
        exact solid
      ends := atEnd.skipped
      endTag := atDashes'.skipped
      divided := headersAndPayload_eq_iff.1 rfl }
  · rintro ⟨before, blanks, body, after, frame⟩
    refine ⟨before, _, ⟨frame.whole, frame.first⟩, s.beginTag, _, ⟨rfl, frame.beginTag⟩, body, _,
      ⟨?_, frame.ends⟩, s.endTag, after, ⟨rfl, frame.endTag⟩, ?_⟩
    · refine dropWhile_blanks frame.allBlank ?_
      intro b front
      cases body with
      | nil =>
        -- The marker of the end is no blank.
        obtain rfl : (45 : UInt8) = b := Option.some.inj front
        decide
      | cons c body => exact frame.solid b front
    · rw [headersAndPayload_eq_iff.2 frame.divided]
      rfl

/-! ## Sections that read as a block -/

/-- What the sections of a block say. -/
structure Sections.Reads (s : Sections) (tag headers text : String) (payload : List UInt8) :
    Prop where
  /-- The tag of the begin and that of the end are one, -/
  isBeginTag : Text.bytes tag = s.beginTag
  isEndTag : Text.bytes tag = s.endTag
  /-- and not empty. -/
  named : tag ≠ ""
  isHeaders : Text.bytes headers = s.headers
  /-- Each line of the headers has a colon. -/
  colons : ∀ line ∈ lines headers.toList, ':' ∈ line
  isText : Text.bytes text = s.payload
  /-- But for the blanks, the text is the payload in Base64. -/
  isPayload : text.toList.filter (fun c => !Text.isBlank c) = Base64.encode payload

/-- A text has a complete block with a payload, and it is the first one. -/
def HasBlock (input payload : List UInt8) : Prop :=
  ∃ s before blanks body after, Frame input s before blanks body after ∧
    ∃ tag headers text, s.Reads tag headers text payload

theorem utf8?_eq_some_iff {text : String} : utf8? bytes = some text ↔ Text.bytes text = bytes := by
  rw [utf8?, String.fromUTF8?]
  constructor
  · intro read
    split at read
    case isTrue =>
      obtain rfl := Option.some.inj read
      rfl
    case isFalse => cases read
  · rintro rfl
    rw [dif_pos (by exact text.isValidUTF8)]
    rfl

theorem utf8_eq_ok_iff {text : String} : utf8 bytes = .ok text ↔ Text.bytes text = bytes := by
  rw [← utf8?_eq_some_iff, utf8]
  cases utf8? bytes with
  | none => simp
  | some read => simp

/-- No header is bad if each of their lines has a colon. -/
theorem badHeader?_eq_none_iff {headers : List Char} :
    badHeader? headers = none ↔ ∀ line ∈ lines headers, ':' ∈ line := by
  rw [badHeader?, List.find?_eq_none]
  simp

theorem bind_eq_ok_iff {α β : Type} {x : Except Error α} {f : α → Except Error β} {b : β} :
    x >>= f = .ok b ↔ ∃ a, x = .ok a ∧ f a = .ok b := by
  cases x with
  | error e =>
    refine iff_of_false nofun ?_
    rintro ⟨a, ok, -⟩
    cases ok
  | ok a =>
    show f a = .ok b ↔ _
    simp

/-- A check that fails ends the reading. -/
theorem ite_throw_eq_ok_iff {α β : Type} {c : Prop} [Decidable c] {e : Error}
    {f : α → Except Error β} {x : Except Error β} {b : β} :
    (if c then throw e >>= f else x) = .ok b ↔ ¬ c ∧ x = .ok b := by
  by_cases wrong : c
  · rw [if_pos wrong]
    refine iff_of_false nofun ?_
    rintro ⟨right, -⟩
    exact right wrong
  · rw [if_neg wrong, and_iff_right wrong]

/-- A payload is read if and only if the text has a block with it. -/
theorem payload_eq_ok_iff : Pem.payload input = .ok payload ↔ HasBlock input payload := by
  rw [Pem.payload, HasBlock]
  cases framed : sections? input with
  | none =>
    refine iff_of_false nofun ?_
    rintro ⟨s, before, blanks, body, after, frame, -⟩
    rw [sections?_eq_some_iff.2 ⟨before, blanks, body, after, frame⟩] at framed
    cases framed
  | some s =>
    simp only [bind_eq_ok_iff, ite_throw_eq_ok_iff, utf8_eq_ok_iff, not_not]
    constructor
    · rintro ⟨tag, beginTag, named, _, endTag, -, rfl, text, isText, read⟩
      obtain ⟨before, blanks, body, after, frame⟩ := sections?_eq_some_iff.1 framed
      -- The payload is decoded before the headers are looked at.
      split at read
      case h_1 => cases read
      case h_2 bytes isPayload =>
        obtain ⟨headers, isHeaders, read⟩ := bind_eq_ok_iff.1 read
        rw [utf8_eq_ok_iff] at isHeaders
        split at read
        case h_1 => cases read
        case h_2 colons =>
          obtain rfl : bytes = payload := Except.ok.inj read
          exact ⟨s, before, blanks, body, after, frame, tag, headers, text, beginTag, endTag,
            mt String.isEmpty_iff.2 named, isHeaders, badHeader?_eq_none_iff.1 colons, isText,
            Base64.decode?_eq_some_iff.1 isPayload⟩
    · rintro ⟨s', before, blanks, body, after, frame, tag, headers, text, reads⟩
      have framed' := sections?_eq_some_iff.2 ⟨before, blanks, body, after, frame⟩
      obtain rfl : s = s' := Option.some.inj (framed.symm.trans framed')
      have named : ¬ tag.isEmpty = true := mt String.isEmpty_iff.1 reads.named
      refine ⟨tag, reads.isBeginTag, named, tag, reads.isEndTag, named, rfl, text, reads.isText, ?_⟩
      rw [Base64.decode?_eq_some_iff.2 reads.isPayload]
      refine bind_eq_ok_iff.2 ⟨headers, utf8_eq_ok_iff.2 reads.isHeaders, ?_⟩
      rw [badHeader?_eq_none_iff.2 reads.colons]
      rfl

/-! ## Blocks that are written -/

/-- The ends of lines. -/
def LineEnd (cs : List Char) : Prop := cs = ['\n'] ∨ cs = ['\r', '\n']

variable {width : Nat} {lineEnd cs : List Char} {c : Char}

theorem LineEnd.mem (isEnd : LineEnd lineEnd) (member : c ∈ lineEnd) : c = '\n' ∨ c = '\r' := by
  rcases isEnd with rfl | rfl
  · exact .inl (List.mem_singleton.1 member)
  · simp only [List.mem_cons, List.not_mem_nil, or_false] at member
    exact member.symm

/-- No line end has a hyphen in it. -/
theorem LineEnd.plain (isEnd : LineEnd lineEnd) (member : c ∈ lineEnd) :
    c.toNat < 128 ∧ c ≠ '-' := by
  rcases isEnd.mem member with rfl | rfl
  · decide
  · decide

/-- A line is part of the text that is broken into lines, -/
theorem mem_of_mem_line {first : Char} {rest : List Char} {n : Nat}
    (member : c ∈ first :: rest.take n) : c ∈ first :: rest := by
  rw [← List.take_succ_cons] at member
  exact List.mem_of_mem_take member

/-- and so is what is left behind it. -/
theorem mem_of_mem_left {first : Char} {rest : List Char} {n : Nat} (member : c ∈ rest.drop n) :
    c ∈ first :: rest :=
  List.mem_cons_of_mem first (List.mem_of_mem_drop member)

/-- Breaking a text into lines adds nothing to it but the ends of these. -/
theorem mem_wrap (member : c ∈ wrap width lineEnd cs) : c ∈ cs ∨ c ∈ lineEnd := by
  fun_induction wrap width lineEnd cs with
  | case1 => cases member
  | case2 first rest ih =>
    rcases List.mem_append.1 member with line | later
    · rcases List.mem_append.1 line with inLine | inEnd
      · exact .inl (mem_of_mem_line inLine)
      · exact .inr inEnd
    · exact (ih later).imp_left mem_of_mem_left

theorem head?_wrap : (wrap width lineEnd cs).head? = cs.head? := by
  cases cs with
  | nil => rw [wrap]
  | cons c rest =>
    rw [wrap, List.cons_append, List.cons_append]
    rfl

/-- Without its blanks, a text in lines is what was broken into them. -/
theorem filter_wrap (isEnd : LineEnd lineEnd) (solid : ∀ c ∈ cs, Text.isBlank c = false) :
    (wrap width lineEnd cs).filter (fun c => !Text.isBlank c) = cs := by
  have noEnd : lineEnd.filter (fun c => !Text.isBlank c) = [] := by
    rcases isEnd with rfl | rfl
    · decide
    · decide
  have kept {cs : List Char} (solid : ∀ c ∈ cs, Text.isBlank c = false) :
      cs.filter (fun c => !Text.isBlank c) = cs := by
    rw [List.filter_eq_self]
    intro c member
    rw [solid c member]
    rfl
  fun_induction wrap width lineEnd cs with
  | case1 => rfl
  | case2 first rest ih =>
    have line : ∀ c ∈ first :: rest.take (width - 1), Text.isBlank c = false := fun c member =>
      solid c (mem_of_mem_line member)
    have later : ∀ c ∈ rest.drop (width - 1), Text.isBlank c = false := fun c member =>
      solid c (mem_of_mem_left member)
    rw [List.filter_append, List.filter_append, kept line, noEnd, ih later, List.append_nil,
      List.cons_append, List.take_append_drop]

/-- No line is empty: what follows a line feed is neither another one nor a carriage return. -/
def NoEmptyLine : List UInt8 → Prop := List.IsChain fun a b => a = 10 → b ≠ 10 ∧ b ≠ 13

theorem NoEmptyLine.not_found (lines : NoEmptyLine body) {gap : List UInt8}
    (isGap : gap = ascii "\n\n" ∨ gap = ascii "\r\n\r\n") (before rest : List UInt8) :
    ¬ Found gap body before rest := by
  intro found
  have chain := lines.infix found.infix
  rcases isGap with rfl | rfl
  · revert chain
    decide
  · revert chain
    decide

/-- A text without line ends has no empty line when it is broken into lines. -/
theorem noEmptyLine_wrap (isEnd : LineEnd lineEnd)
    (solid : ∀ c ∈ cs, Text.asciiByte c ≠ 10 ∧ Text.asciiByte c ≠ 13) :
    NoEmptyLine ((wrap width lineEnd cs).map Text.asciiByte) := by
  rw [NoEmptyLine, List.isChain_map]
  fun_induction wrap width lineEnd cs with
  | case1 => exact .nil
  | case2 first rest ih =>
    have inLine : ∀ c ∈ first :: rest.take (width - 1), Text.asciiByte c ≠ 10 := fun c member =>
      (solid c (mem_of_mem_line member)).1
    have later : ∀ c ∈ rest.drop (width - 1), Text.asciiByte c ≠ 10 ∧ Text.asciiByte c ≠ 13 :=
      fun c member => solid c (mem_of_mem_left member)
    refine List.isChain_append.2
      ⟨List.isChain_append.2 ⟨?line, ?lineEnd, ?toEnd⟩, ih later, ?toNext⟩
    case line =>
      -- There is no line feed within the line.
      refine List.Pairwise.isChain (List.pairwise_of_forall_mem_list ?_)
      intro c inside _ _ feed
      exact absurd feed (inLine c inside)
    case lineEnd =>
      rcases isEnd with rfl | rfl
      · decide
      · decide
    case toEnd =>
      intro c last _ _ feed
      exact absurd feed (inLine c (List.mem_of_getLast? last))
    case toNext =>
      -- The next line begins with a character of the text.
      intro _ _ d next _
      rw [head?_wrap] at next
      exact later d (List.mem_of_mem_head? next)

theorem render_eq (tag : List Char) (width : Nat) (lineEnd : List Char) (payload : List UInt8) :
    render tag width lineEnd payload = "-----BEGIN ".toList ++ tag ++ "-----".toList ++ lineEnd
      ++ wrap width lineEnd (Base64.encode payload)
      ++ "-----END ".toList ++ tag ++ "-----".toList ++ lineEnd :=
  rfl

/-- The body of a written block is made of ASCII characters, none of them a hyphen. -/
theorem plain_of_mem_wrap (isEnd : LineEnd lineEnd)
    (member : c ∈ wrap width lineEnd (Base64.encode payload)) : c.toNat < 128 ∧ c ≠ '-' := by
  rcases mem_wrap member with digit | ends
  · obtain ⟨-, other, ascii⟩ := Base64.plain_of_mem_encode digit
    exact ⟨ascii, other⟩
  · exact isEnd.plain ends

/-- The characters of a block are those of ASCII, if the tag's are. -/
theorem ascii_of_mem_render {tag : List Char} (ascii : ∀ c ∈ tag, c.toNat < 128)
    (isEnd : LineEnd lineEnd) : ∀ c ∈ render tag width lineEnd payload, c.toNat < 128 := by
  have inEnd : ∀ c ∈ lineEnd, c.toNat < 128 := fun c member => (isEnd.plain member).1
  have inBody : ∀ c ∈ wrap width lineEnd (Base64.encode payload), c.toNat < 128 := fun c member =>
    (plain_of_mem_wrap isEnd member).1
  have begins : ∀ c ∈ "-----BEGIN ".toList, c.toNat < 128 :=
    List.all_iff_forall_prop.1 (by decide)
  have ends : ∀ c ∈ "-----END ".toList, c.toNat < 128 :=
    List.all_iff_forall_prop.1 (by decide)
  have dashes : ∀ c ∈ "-----".toList, c.toNat < 128 :=
    List.all_iff_forall_prop.1 (by decide)
  rw [render_eq]
  simp only [List.forall_mem_append]
  exact ⟨⟨⟨⟨⟨⟨⟨⟨begins, ascii⟩, dashes⟩, inEnd⟩, inBody⟩, ends⟩, ascii⟩, dashes⟩, inEnd⟩

/-- Characters without a hyphen are skipped in the search for a marker that begins with one. -/
theorem skipped_of_hyphen_not_mem {marker : List UInt8} (hyphen : marker.head? = some 45)
    (without : ∀ c ∈ cs, c.toNat < 128 ∧ c ≠ '-') : Skipped marker (cs.map Text.asciiByte) := by
  obtain ⟨more, rfl⟩ := List.head?_eq_some_iff.1 hyphen
  refine .of_not_mem ?_
  intro member
  obtain ⟨c, inside, same⟩ := List.mem_map.1 member
  obtain ⟨ascii, other⟩ := without c inside
  exact other ((Text.asciiByte_inj ascii (by decide)).1 same)

/-- The byte of a character in Base64 is no blank. -/
theorem isBlankByte_asciiByte (member : c ∈ Base64.encode payload) :
    isBlankByte (Text.asciiByte c) = false := by
  obtain ⟨solid, -, ascii⟩ := Base64.plain_of_mem_encode member
  have other {d : Char} (blank : Text.isBlank d = true) (ascii' : d.toNat < 128) :
      Text.asciiByte c ≠ Text.asciiByte d := by
    intro same
    obtain rfl := (Text.asciiByte_inj ascii ascii').1 same
    rw [solid] at blank
    cases blank
  rw [isBlankByte]
  simp only [Bool.or_eq_false_iff, beq_eq_false_iff_ne]
  exact ⟨⟨⟨other (d := ' ') rfl (by decide), other (d := '\t') rfl (by decide)⟩,
    other (d := '\n') rfl (by decide)⟩, other (d := '\r') rfl (by decide)⟩

/-- A payload that is written as a block is that of the first block of the text, whatever the tag
says, how wide the lines are and how they end. -/
theorem hasBlock_render {tag : String} (named : tag ≠ "")
    (plain : ∀ c ∈ tag.toList, c.toNat < 128 ∧ c ≠ '-') (width : Nat) (isEnd : LineEnd lineEnd)
    (payload : List UInt8) :
    HasBlock (Text.bytes (String.ofList (render tag.toList width lineEnd payload))) payload := by
  have tagAscii : ∀ c ∈ tag.toList, c.toNat < 128 := fun c member => (plain c member).1
  have tagBytes : Text.bytes tag = tag.toList.map Text.asciiByte := by
    rw [← Text.bytes_ofList_of_ascii tagAscii, String.ofList_toList]
  rw [Text.bytes_ofList_of_ascii (ascii_of_mem_render tagAscii isEnd), render_eq]
  generalize body : wrap width lineEnd (Base64.encode payload) = cs
  have bodyPlain : ∀ c ∈ cs, c.toNat < 128 ∧ c ≠ '-' := by
    intro c member
    rw [← body] at member
    exact plain_of_mem_wrap isEnd member
  have noEmptyLine : NoEmptyLine (cs.map Text.asciiByte) := by
    rw [← body]
    refine noEmptyLine_wrap isEnd fun c member => ?_
    have solid := isBlankByte_asciiByte member
    constructor
    · intro feed
      rw [feed] at solid
      cases solid
    · intro carriage
      rw [carriage] at solid
      cases solid
  -- Nothing stands before the block, and it has no headers.
  refine ⟨⟨Text.bytes tag, [], cs.map Text.asciiByte, Text.bytes tag⟩, [],
    lineEnd.map Text.asciiByte, cs.map Text.asciiByte, lineEnd.map Text.asciiByte, ?frame, tag, "",
    String.ofList cs, ?reads⟩
  case frame =>
    exact {
      whole := by
        simp only [List.map_append, List.append_assoc, List.nil_append, tagBytes]
        rfl
      first := .nil
      beginTag := by
        rw [tagBytes]
        exact skipped_of_hyphen_not_mem rfl plain
      allBlank := by
        intro b member
        obtain ⟨c, inside, rfl⟩ := List.mem_map.1 member
        rcases isEnd.mem inside with rfl | rfl
        · decide
        · decide
      solid := by
        intro b front
        rw [List.head?_map, ← body, head?_wrap] at front
        obtain ⟨c, first, rfl⟩ := Option.map_eq_some_iff.1 front
        exact isBlankByte_asciiByte (List.mem_of_mem_head? first)
      ends := skipped_of_hyphen_not_mem rfl bodyPlain
      endTag := by
        rw [tagBytes]
        exact skipped_of_hyphen_not_mem rfl plain
      divided := .headless (noEmptyLine.not_found (.inl rfl)) (noEmptyLine.not_found (.inr rfl)) }
  case reads =>
    exact {
      isBeginTag := rfl
      isEndTag := rfl
      named
      isHeaders := rfl
      colons := by
        intro line member
        cases member
      isText := Text.bytes_ofList_of_ascii fun c member => (bodyPlain c member).1
      isPayload := by
        rw [String.toList_ofList, ← body]
        exact filter_wrap isEnd fun c member => (Base64.plain_of_mem_encode member).1 }

end JenkinsOperator.Pem
