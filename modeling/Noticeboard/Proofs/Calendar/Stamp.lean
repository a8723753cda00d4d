import Noticeboard.Proofs.Calendar.Moment
import Noticeboard.Proofs.Text.Padded

/-!
Stamps. A stamp is the local time that it was made from, less the year, in a fixed layout: every stamp
is equally long, and within a year of a zone whose offset never changes no two instants have the same.
-/

namespace Noticeboard.Calendar

open Text.Numeral

/-! ## Layout -/

/-- The text `Mon DD HH:MM:SS.mmm`. -/
def layout (month : String) (day hour minute second milli : Nat) : List Char :=
  month.toList ++ (' ' :: lastDigits 2 day ++ (' ' :: lastDigits 2 hour ++ (':' ::
    lastDigits 2 minute ++ (':' :: lastDigits 2 second ++ '.' :: lastDigits 3 milli))))

theorem length_layout {month : String} (h : month.length = 3)
    (day hour minute second milli : Nat) :
    (layout month day hour minute second milli).length = 19 := by
  simp only [layout, List.length_append, List.length_cons, length_lastDigits, String.length_toList, h]

/-- Each part of the layout has its place, so that the text tells all of them. -/
theorem layout_inj {month month' : String} {d h m s n d' h' m' s' n' : Nat}
    (hmonth : month.length = month'.length)
    (heq : layout month d h m s n = layout month' d' h' m' s' n') :
    month = month' ∧ lastDigits 2 d = lastDigits 2 d' ∧ lastDigits 2 h = lastDigits 2 h' ∧
      lastDigits 2 m = lastDigits 2 m' ∧ lastDigits 2 s = lastDigits 2 s' ∧
      lastDigits 3 n = lastDigits 3 n' := by
  have hlength (a b : Nat) (c : Char) :
      (c :: lastDigits 2 a).length = (c :: lastDigits 2 b).length := by simp
  obtain ⟨hname, heq⟩ := List.append_inj heq (by simpa only [String.length_toList] using hmonth)
  obtain ⟨hd, heq⟩ := List.append_inj heq (hlength d d' ' ')
  obtain ⟨hh, heq⟩ := List.append_inj heq (hlength h h' ' ')
  obtain ⟨hm, heq⟩ := List.append_inj heq (hlength m m' ':')
  obtain ⟨hs, heq⟩ := List.append_inj heq (hlength s s' ':')
  exact ⟨String.toList_inj.mp hname, List.tail_eq_of_cons_eq hd, List.tail_eq_of_cons_eq hh,
    List.tail_eq_of_cons_eq hm, List.tail_eq_of_cons_eq hs, List.tail_eq_of_cons_eq heq⟩

/-! ## Months -/

theorem exists_monthName {month : Nat} (h : 1 ≤ month ∧ month ≤ 12) :
    ∃ name, monthNames[month - 1]? = some name ∧ name.length = 3 := by
  have hall : ∀ name ∈ monthNames, name.length = 3 := by decide
  have hmonth : month - 1 < monthNames.length := by
    show month - 1 < 12
    omega
  exact ⟨monthNames[month - 1], List.getElem?_eq_getElem hmonth, hall _ (List.getElem_mem hmonth)⟩

theorem month_eq_of_name {month month' : Nat} {name : String} (h : 1 ≤ month ∧ month ≤ 12)
    (h' : 1 ≤ month' ∧ month' ≤ 12) (hname : monthNames[month - 1]? = some name)
    (hname' : monthNames[month' - 1]? = some name) : month = month' := by
  have hdistinct : monthNames.Nodup := by decide
  have hmonth : month - 1 < monthNames.length := by
    show month - 1 < 12
    omega
  have hsame := (List.getElem?_inj hmonth hdistinct).mp (hname.trans hname'.symm)
  omega

/-! ## Stamps -/

/-- Whether a text is the stamp of a local time, with milliseconds that are given. -/
structure LocalTime.Stamped (t : LocalTime) (milli : Nat) (stamp : String) : Prop where
  layout : ∃ month, monthNames[t.date.month - 1]? = some month ∧ month.length = 3 ∧
    stamp.toList = layout month t.date.day t.hour t.minute t.second milli
  length : stamp.length = 19

theorem take_length_sub_three {xs ys : List Char} (h : ys.length = 3) :
    (xs ++ ys).take ((xs ++ ys).length - 3) = xs := by
  rw [List.length_append, h, Nat.add_sub_cancel, List.take_left]

/-- Of the six digits behind the point, the first three are those of the milliseconds. -/
theorem LocalTime.stamped {t : LocalTime} (h : t.WellFormed) :
    t.Stamped (t.micro / 1000) t.stamp := by
  obtain ⟨month, hmonth, hlength⟩ := exists_monthName h.date.month
  have hday : t.date.day < 10 ^ 2 := Nat.lt_of_le_of_lt h.date.day_le (by decide)
  have hhour : t.hour < 10 ^ 2 := Nat.lt_trans h.hour (by decide)
  have hminute : t.minute < 10 ^ 2 := Nat.lt_trans h.minute (by decide)
  have hsecond : t.second < 10 ^ 2 := Nat.lt_trans h.second (by decide)
  have hname : monthNames.getD (t.date.month - 1) "" = month := by
    rw [List.getD_eq_getElem?_getD, hmonth, Option.getD_some]
  have hfraction : (padded 6 t.micro).toList =
      lastDigits 3 (t.micro / 1000) ++ lastDigits 3 t.micro :=
    (toList_padded (by decide) h.micro).trans (lastDigits_add 3 3 t.micro)
  have hfull : t.fullStamp.toList =
      layout month t.date.day t.hour t.minute t.second (t.micro / 1000) ++
        lastDigits 3 t.micro := by
    simp only [fullStamp, String.toList_append, hname, hfraction, toList_padded (by decide) hday,
      toList_padded (by decide) hhour, toList_padded (by decide) hminute,
      toList_padded (by decide) hsecond, Calendar.layout, List.append_assoc, List.cons_append]
    rfl
  have hstamp : t.stamp.toList =
      layout month t.date.day t.hour t.minute t.second (t.micro / 1000) := by
    rw [stamp, String.toList_ofList, hfull, take_length_sub_three (length_lastDigits 3 _)]
  refine ⟨⟨month, hmonth, hlength, hstamp⟩, ?_⟩
  rw [← String.length_toList, hstamp, length_layout hlength]

/-- The stamp and the year tell the date and the time of day, to the millisecond. -/
theorem LocalTime.eq_of_stamped {t u : LocalTime} {m n : Nat} {stamp : String} (ht : t.WellFormed)
    (hu : u.WellFormed) (hm : m < 1000) (hn : n < 1000) (hyear : t.date.year = u.date.year)
    (hts : t.Stamped m stamp) (hus : u.Stamped n stamp) :
    t.date = u.date ∧ t.hour = u.hour ∧ t.minute = u.minute ∧ t.second = u.second ∧ m = n := by
  obtain ⟨month, hmonth, hlength, hlayout⟩ := hts.layout
  obtain ⟨month', hmonth', hlength', hlayout'⟩ := hus.layout
  obtain ⟨rfl, hday, hhour, hminute, hsecond, hmilli⟩ :=
    layout_inj (hlength.trans hlength'.symm) (hlayout.symm.trans hlayout')
  have two {a b k : Nat} (ha : a < k) (hb : b < k) (hk : k ≤ 100)
      (h : lastDigits 2 a = lastDigits 2 b) : a = b :=
    eq_of_lastDigits (Nat.lt_of_lt_of_le ha hk) (Nat.lt_of_lt_of_le hb hk) h
  have hdate : t.date = u.date := by
    have hsameMonth := month_eq_of_name ht.date.month hu.date.month hmonth hmonth'
    have hsameDay := two (Nat.lt_succ_of_le ht.date.day_le) (Nat.lt_succ_of_le hu.date.day_le)
      (by decide) hday
    cases htd : t.date
    cases hud : u.date
    simp only [htd, hud] at hyear hsameMonth hsameDay
    rw [hyear, hsameMonth, hsameDay]
  exact ⟨hdate, two ht.hour hu.hour (by decide) hhour, two ht.minute hu.minute (by decide) hminute,
    two ht.second hu.second (by decide) hsecond, eq_of_lastDigits hm hn hmilli⟩

section

variable {text : String} {database : Zone.Database} {zone : Zone} {offset : Offset}

theorem LocalTime.IsAt.milli {t : LocalTime} {millis : Int} (h : t.IsAt millis offset) :
    t.micro / 1000 = (millis % 1000).toNat := by
  have := h.micro
  omega

/-- Where the offset never changes, a stamp shows the local time of its instant to the millisecond,
and only the year is missing. -/
theorem stamp_loses_only_year (h : Zone.select text database = .ok zone)
    (hfixed : ∀ seconds, zone.offsetAt seconds = offset) :
    (∀ millis t, localTimeIn text millis database = .ok t →
      t.IsAt millis offset ∧ ∃ stamp, stampIn text millis database = .ok stamp ∧
        t.Stamped (millis % 1000).toNat stamp) ∧
    ∀ a b t u, localTimeIn text a database = .ok t → localTimeIn text b database = .ok u →
      t.date.year = u.date.year → stampIn text a database = stampIn text b database → a = b := by
  have hat {millis : Int} {t : LocalTime} (ht : localTimeIn text millis database = .ok t) :
      t.IsAt millis offset ∧ t.Stamped (millis % 1000).toNat t.stamp := by
    have hat := isAt_of_localTimeIn h ht
    rw [hfixed] at hat
    exact ⟨hat, hat.milli ▸ LocalTime.stamped hat.wellFormed⟩
  constructor
  · intro millis t ht
    exact ⟨(hat ht).1, t.stamp, stampIn_of_localTimeIn ht, (hat ht).2⟩
  · intro a b t u ht hu hyear hstamp
    obtain ⟨hta, hts⟩ := hat ht
    obtain ⟨hub, hus⟩ := hat hu
    rw [stampIn_of_localTimeIn ht, stampIn_of_localTimeIn hu] at hstamp
    rw [Except.ok.inj hstamp] at hts
    obtain ⟨hdate, hhour, hminute, hsecond, hmilli⟩ :=
      LocalTime.eq_of_stamped hta.wellFormed hub.wellFormed (by omega) (by omega) hyear hts hus
    have hmicros : t.micros = u.micros := by
      have hmicro : t.micro = u.micro := by
        have := hta.micro
        have := hub.micro
        omega
      rw [LocalTime.micros, LocalTime.micros, hdate, hhour, hminute, hsecond, hmicro]
    have hinstant := hta.instant
    rw [hmicros, hub.instant] at hinstant
    omega

/-- The last two instants before the epoch, five hours west of UTC. -/
theorem last_stamps_before_epoch :
    Zone.select "Etc/GMT+5" = .ok (.fixed (.ofMinutes (-300))) ∧
      (∃ t stamp, localTimeIn "Etc/GMT+5" (-1) = .ok t ∧ stampIn "Etc/GMT+5" (-1) = .ok stamp ∧
        t.Stamped 999 stamp) ∧
      stampIn "Etc/GMT+5" (-1) ≠ stampIn "Etc/GMT+5" (-2) := by
  have hselect : Zone.select "Etc/GMT+5" = .ok (.fixed (.ofMinutes (-300))) := rfl
  obtain ⟨hstamped, hinjective⟩ := stamp_loses_only_year hselect fun _ => rfl
  have hlast : localTimeIn "Etc/GMT+5" (-1) = .ok ⟨⟨1969, 12, 31⟩, 18, 59, 59, 999000, _⟩ := rfl
  have hbefore : localTimeIn "Etc/GMT+5" (-2) = .ok ⟨⟨1969, 12, 31⟩, 18, 59, 59, 998000, _⟩ := rfl
  obtain ⟨-, stamp, hstamp, hlayout⟩ := hstamped _ _ hlast
  refine ⟨hselect, ⟨_, stamp, hlast, hstamp, hlayout⟩, fun hsame => ?_⟩
  cases hinjective _ _ _ _ hlast hbefore rfl hsame

end

end Noticeboard.Calendar
