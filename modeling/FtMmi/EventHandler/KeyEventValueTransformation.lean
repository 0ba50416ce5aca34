/-
FtMmi.EventHandler.KeyEventValueTransformation — the table of Linux key
codes (`key_event_value_transformation.cpp`), read both ways.

Of an entry the callers read `sysKeyValue` only. A code the table does not
have is turned into 10000 more than itself, which is not turned back. The
table has some codes twice and some keys twice: `roundTrip_iff` says for
which codes and keys the two ways agree.
-/
import FtMmi.Lib.Multimap

namespace FtMmi.EventHandler

open FtMmi.Lib

/-- `MAP_KEY_EVENT_VALUE_TRANSFORMATION` as it is written: Linux code and
`sysKeyValue`. -/
def keyEventValueTransformations : List (Int32 × Int32) :=
  [(11, 2000), (2, 2001), (3, 2002), (4, 2003), (5, 2004), (6, 2005), (7, 2006), (8, 2007),
   (9, 2008), (10, 2009), (522, 2010), (523, 2011), (103, 2012), (108, 2013), (105, 2014),
   (106, 2015), (353, 2016), (30, 2017), (48, 2018), (46, 2019), (32, 2020), (18, 2021),
   (33, 2022), (34, 2023), (35, 2024), (23, 2025), (36, 2026), (37, 2027), (38, 2028), (50, 2029),
   (49, 2030), (24, 2031), (25, 2032), (16, 2033), (19, 2034), (31, 2035), (20, 2036), (22, 2037),
   (47, 2038), (17, 2039), (45, 2040), (21, 2041), (44, 2042), (51, 2043), (52, 2044), (56, 2045),
   (100, 2046), (42, 2047), (54, 2048), (15, 2049), (57, 2050), (150, 2052), (155, 2053),
   (28, 2054), (14, 2055), (41, 2056), (12, 2057), (13, 2058), (26, 2059), (27, 2060), (43, 2061),
   (39, 2062), (40, 2063), (53, 2064), (139, 2067), (127, 2466), (104, 2068), (109, 2069),
   (1, 2070), (111, 2071), (29, 2072), (97, 2073), (58, 2074), (70, 2075), (125, 2076),
   (126, 2077), (464, 2078), (99, 2079), (119, 2080), (102, 2081), (107, 2082), (110, 2083),
   (159, 2084), (207, 2085), (200, 2643), (201, 2086), (160, 2087), (161, 2088), (167, 2089),
   (59, 2090), (60, 2091), (61, 2092), (62, 2093), (63, 2094), (64, 2095), (65, 2096), (66, 2097),
   (67, 2098), (68, 2099), (87, 2100), (88, 2101), (69, 2102), (82, 2103), (79, 2104), (80, 2105),
   (81, 2106), (75, 2107), (76, 2108), (77, 2109), (71, 2110), (72, 2111), (73, 2112), (98, 2113),
   (55, 2114), (74, 2115), (78, 2116), (83, 2117), (95, 2118), (121, 2118), (96, 2119),
   (117, 2120), (179, 2121), (180, 2122), (115, 16), (114, 17), (116, 18), (113, 22), (172, 1),
   (158, 2), (640, 2210), (304, 2301), (305, 2302), (306, 2303), (307, 2304), (308, 2305),
   (309, 2306), (310, 2307), (311, 2308), (312, 2309), (313, 2310), (314, 2311), (315, 2312),
   (316, 2313), (317, 2314), (318, 2315), (288, 2401), (289, 2402), (290, 2403), (291, 2404),
   (292, 2405), (293, 2406), (294, 2407), (295, 2408), (296, 2409), (297, 2410), (298, 2411),
   (299, 2412), (300, 2413), (301, 2414), (302, 2415), (303, 2416), (330, 2500), (320, 2501),
   (321, 2502), (322, 2503), (323, 2504), (324, 2505), (325, 2506), (326, 2507), (327, 2508),
   (331, 2509), (332, 2510), (329, 2511), (333, 2512), (334, 2513), (335, 2514), (328, 2515),
   (212, 19), (225, 40), (224, 41), (355, 5), (528, 7), (217, 9), (164, 10), (166, 11), (163, 12),
   (165, 13), (168, 14), (208, 15), (582, 20), (240, -1), (142, 2600), (85, 2601), (86, 2602),
   (89, 2603), (90, 2604), (91, 2605), (92, 2606), (93, 2607), (94, 2608), (101, 2609),
   (112, 2610), (118, 2611), (120, 2612), (122, 2613), (123, 2614), (124, 2615), (128, 2616),
   (129, 2617), (130, 2618), (131, 2619), (133, 2620), (134, 2621), (135, 2622), (136, 2623),
   (137, 2624), (138, 2625), (140, 2626), (144, 2627), (156, 2628), (163, 12), (164, 2630),
   (165, 13), (166, 2632), (169, 3), (171, 2634), (173, 2635), (174, 2636), (176, 2637),
   (177, 2638), (178, 2639), (181, 2640), (182, 2641), (206, 2642), (209, 2644), (210, 2645),
   (216, 2646), (219, 2647), (223, 2648), (228, 2649), (229, 2650), (230, 2651), (231, 2652),
   (232, 2653), (233, 2654), (234, 2655), (235, 2656), (241, 2657), (242, 2658), (243, 2659),
   (244, 2660), (245, 2661), (256, 2662), (354, 2663), (358, 2664), (362, 2665), (366, 2666),
   (370, 2667), (372, 2668), (374, 2669), (375, 2670), (376, 2671), (377, 2672), (378, 2673),
   (379, 2674), (380, 2675), (381, 2676), (383, 2677), (384, 2678), (386, 2679), (387, 2680),
   (389, 2681), (392, 2682), (393, 2683), (396, 2684), (397, 2685), (398, 2686), (399, 2687),
   (400, 2688), (401, 2689), (402, 2690), (403, 2691), (405, 2692), (408, 2693), (409, 2694),
   (410, 2695), (416, 2696), (417, 2697), (418, 2698), (419, 2699), (420, 2700), (421, 2701),
   (422, 2702), (423, 2703), (424, 2704), (425, 2705), (426, 2706), (427, 2707), (428, 2708),
   (429, 2709), (430, 2710), (431, 2711), (432, 2712), (433, 2713), (439, 2714), (442, 2715),
   (576, 2716), (577, 2717), (578, 2718), (579, 2719), (580, 2720), (581, 2721), (583, 2722),
   (584, 2723), (592, 2724), (593, 2725), (608, 2726), (609, 2727), (610, 2728), (611, 2729),
   (612, 2730), (613, 2731), (132, 2800), (141, 2801), (143, 2802), (145, 2803), (146, 2804),
   (147, 2805), (148, 2806), (149, 2807), (151, 2808), (152, 2809), (153, 2810), (154, 2811),
   (157, 2812), (162, 2813), (170, 2814), (175, 2815), (183, 2816), (184, 2817), (185, 2818),
   (186, 2819), (187, 2820), (188, 2821), (189, 2822), (190, 2823), (191, 2824), (192, 2825),
   (193, 2826), (194, 2827), (202, 2828), (203, 2829), (204, 2830), (205, 2831), (211, 2832),
   (213, 2833), (214, 2834), (215, 2065), (218, 2836), (220, 2837), (221, 2838), (222, 2839),
   (226, 6), (227, 2841), (236, 2842), (237, 2843), (238, 2844), (239, 2845), (246, 2846),
   (247, 2847), (248, 23), (363, 3001), (256, 3100), (257, 3101), (258, 3102), (259, 3103),
   (260, 3104), (261, 3105), (262, 3106), (263, 3107), (264, 3108), (265, 3109), (497, 3201),
   (498, 3202), (499, 3203), (500, 3204), (501, 3205), (502, 3206), (503, 3207), (504, 3208),
   (505, 3209), (506, 3210), (744, 4), (407, 2629), (412, 2631)]

def mapKeyEventValueTransformation : Multimap Int32 Int32 := .ofList keyEventValueTransformations

def unknownKeyBase : Int32 := 10000

def invalidKeyCode : Int32 := -1

/-- `TransferKeyValue(keyValueOfInput).sysKeyValue` -/
def transferKeyValue (keyValueOfInput : Int32) : Int32 :=
  (mapKeyEventValueTransformation.find? keyValueOfInput).getD (unknownKeyBase + keyValueOfInput)

def inputTransformationKeyValue (keyCode : Int32) : Int32 :=
  (mapKeyEventValueTransformation.keyOf? keyCode).getD invalidKeyCode

/-! ## There and back -/

def IsEntry (code key : Int32) : Prop := (code, key) ∈ keyEventValueTransformations

instance (code key : Int32) : Decidable (IsEntry code key) :=
  inferInstanceAs (Decidable ((code, key) ∈ keyEventValueTransformations))

def IsCode (code : Int32) : Prop := ∃ key, IsEntry code key

def IsKey (key : Int32) : Prop := ∃ code, IsEntry code key

/-- The first entry of its code. -/
def IsFirst (code key : Int32) : Prop :=
  (keyEventValueTransformations.find? fun e => e.1 = code).map Prod.snd = some key

/-- The key of a code is that of its first entry, or made of it. -/
def Yields (code key : Int32) : Prop :=
  IsFirst code key ∨ (¬ IsCode code ∧ key = unknownKeyBase + code)

/-- No lower code has the key. -/
def IsLowest (code key : Int32) : Prop := ∀ other, IsEntry other key → code ≤ other

/-- Of the entries of the table, those that are both the first of their code
and the lowest of their key, or neither. A code that is not in the table must
not be the one that its key is made of; the code that stands for no code must
have that key, or one of the table. -/
def RoundTrips (code key : Int32) : Prop :=
  (IsEntry code key → (IsFirst code key ↔ IsLowest code key)) ∧
  (¬ IsCode code → code ≠ invalidKeyCode → key ≠ unknownKeyBase + code) ∧
  (code = invalidKeyCode → key = unknownKeyBase + code ∨ IsKey key)

theorem find?_eq_some_iff {code key : Int32} :
    mapKeyEventValueTransformation.find? code = some key ↔ IsFirst code key := by
  rw [mapKeyEventValueTransformation, Multimap.find?_ofList]
  rfl

theorem find?_eq_none_iff {code : Int32} :
    mapKeyEventValueTransformation.find? code = none ↔ ¬ IsCode code := by
  simp [Multimap.find?_eq_none_iff, mapKeyEventValueTransformation, IsCode, IsEntry]

theorem keyOf?_eq_some_iff {code key : Int32} :
    mapKeyEventValueTransformation.keyOf? key = some code ↔
      IsEntry code key ∧ IsLowest code key := by
  simp [Multimap.keyOf?_eq_some_iff, mapKeyEventValueTransformation, IsLowest, IsEntry]

theorem keyOf?_eq_none_iff {key : Int32} :
    mapKeyEventValueTransformation.keyOf? key = none ↔ ¬ IsKey key := by
  simp [Multimap.keyOf?_eq_none_iff, mapKeyEventValueTransformation, IsKey, IsEntry]

theorem IsFirst.isEntry {code key : Int32} (h : IsFirst code key) : IsEntry code key :=
  Multimap.mem_ofList.mp (Multimap.mem_of_find? (find?_eq_some_iff.mpr h))

/-- No entry is for the code that stands for none. -/
theorem not_isCode_invalidKeyCode : ¬ IsCode invalidKeyCode := by
  rintro ⟨key, hentry⟩
  have hall : keyEventValueTransformations.all (fun e => e.1 ≠ invalidKeyCode) = true := by
    decide +kernel
  simpa using List.all_eq_true.mp hall _ hentry

/-- The key of that code is not in the table. -/
theorem not_isKey_unknown : ¬ IsKey (unknownKeyBase + invalidKeyCode) := by
  rintro ⟨code, hentry⟩
  have hall : keyEventValueTransformations.all
      (fun e => e.2 ≠ unknownKeyBase + invalidKeyCode) = true := by decide +kernel
  simpa using List.all_eq_true.mp hall _ hentry

theorem transferKeyValue_eq_iff {code key : Int32} :
    transferKeyValue code = key ↔ Yields code key := by
  rw [Yields, ← find?_eq_some_iff, ← find?_eq_none_iff, transferKeyValue]
  cases mapKeyEventValueTransformation.find? code with
  | none => simp [eq_comm]
  | some value => simp

theorem inputTransformationKeyValue_eq_iff {code key : Int32} :
    inputTransformationKeyValue key = code ↔
      (IsEntry code key ∧ IsLowest code key) ∨ (¬ IsKey key ∧ code = invalidKeyCode) := by
  rw [← keyOf?_eq_some_iff, ← keyOf?_eq_none_iff, inputTransformationKeyValue]
  cases mapKeyEventValueTransformation.keyOf? key with
  | none => simp [eq_comm]
  | some value => simp

-- Nothing below goes through the table any more.
attribute [irreducible] mapKeyEventValueTransformation

theorem roundTrip_iff (code key : Int32) :
    (inputTransformationKeyValue key = code ↔ transferKeyValue code = key) ↔
      RoundTrips code key := by
  rw [inputTransformationKeyValue_eq_iff, transferKeyValue_eq_iff, Yields]
  by_cases hentry : IsEntry code key
  · have hcode : IsCode code := ⟨key, hentry⟩
    have hkey : IsKey key := ⟨code, hentry⟩
    have hne : code ≠ invalidKeyCode := by
      rintro rfl
      exact not_isCode_invalidKeyCode hcode
    simp [RoundTrips, hentry, hcode, hne, iff_comm]
  · have hfirst : ¬ IsFirst code key := fun h => hentry h.isEntry
    by_cases hinvalid : code = invalidKeyCode
    · subst hinvalid
      have hunknown : key = unknownKeyBase + invalidKeyCode → ¬ IsKey key := by
        rintro rfl
        exact not_isKey_unknown
      simp only [RoundTrips, hentry, hfirst, not_isCode_invalidKeyCode]
      tauto
    · simp only [RoundTrips, hentry, hfirst, hinvalid]
      tauto

end FtMmi.EventHandler
