import ContractVerifier.Charset.Page.Basic

set_option autoImplicit false

/-! # Pages: Windows

The arrangements of Windows: mostly letters of the same alphabets as in ISO 8859, with
punctuation where those have controls.
-/

namespace ContractVerifier.Charset.Page

/-- The page `cp1250`. -/
def cp1250 : Page := ofTable
  "20AC FFFD 201A FFFD 201E 2026 2020 2021 FFFD 2030 160 2039 15A 164 17D 179 FFFD 2018 2019
   201C 201D 2022 2013 2014 FFFD 2122 161 203A 15B 165 17E 17A A0 2C7 2D8 141 A4 104 A6 A7 A8
   A9 15E AB AC AD AE 17B B0 B1 2DB 142 B4 B5 B6 B7 B8 105 15F BB 13D 2DD 13E 17C 154 C1 C2 102
   C4 139 106 C7 10C C9 118 CB 11A CD CE 10E 110 143 147 D3 D4 150 D6 D7 158 16E DA 170 DC DD
   162 DF 155 E1 E2 103 E4 13A 107 E7 10D E9 119 EB 11B ED EE 10F 111 144 148 F3 F4 151 F6 F7
   159 16F FA 171 FC FD 163 2D9"

/-- The page `cp1251`. -/
def cp1251 : Page := ofTable
  "402 403 201A 453 201E 2026 2020 2021 20AC 2030 409 2039 40A 40C 40B 40F 452 2018 2019 201C
   201D 2022 2013 2014 FFFD 2122 459 203A 45A 45C 45B 45F A0 40E 45E 408 A4 490 A6 A7 401 A9
   404 AB AC AD AE 407 B0 B1 406 456 491 B5 B6 B7 451 2116 454 BB 458 405 455 457 410 411 412
   413 414 415 416 417 418 419 41A 41B 41C 41D 41E 41F 420 421 422 423 424 425 426 427 428 429
   42A 42B 42C 42D 42E 42F 430 431 432 433 434 435 436 437 438 439 43A 43B 43C 43D 43E 43F 440
   441 442 443 444 445 446 447 448 449 44A 44B 44C 44D 44E 44F"

/-- The page `cp1252`. -/
def cp1252 : Page := ofTable
  "20AC FFFD 201A 192 201E 2026 2020 2021 2C6 2030 160 2039 152 FFFD 17D FFFD FFFD 2018 2019
   201C 201D 2022 2013 2014 2DC 2122 161 203A 153 FFFD 17E 178 A0 A1 A2 A3 A4 A5 A6 A7 A8 A9 AA
   AB AC AD AE AF B0 B1 B2 B3 B4 B5 B6 B7 B8 B9 BA BB BC BD BE BF C0 C1 C2 C3 C4 C5 C6 C7 C8 C9
   CA CB CC CD CE CF D0 D1 D2 D3 D4 D5 D6 D7 D8 D9 DA DB DC DD DE DF E0 E1 E2 E3 E4 E5 E6 E7 E8
   E9 EA EB EC ED EE EF F0 F1 F2 F3 F4 F5 F6 F7 F8 F9 FA FB FC FD FE FF"

/-- The page `cp1253`. -/
def cp1253 : Page := ofTable
  "20AC FFFD 201A 192 201E 2026 2020 2021 FFFD 2030 FFFD 2039 FFFD FFFD FFFD FFFD FFFD 2018
   2019 201C 201D 2022 2013 2014 FFFD 2122 FFFD 203A FFFD FFFD FFFD FFFD A0 385 386 A3 A4 A5 A6
   A7 A8 A9 FFFD AB AC AD AE 2015 B0 B1 B2 B3 384 B5 B6 B7 388 389 38A BB 38C BD 38E 38F 390
   391 392 393 394 395 396 397 398 399 39A 39B 39C 39D 39E 39F 3A0 3A1 FFFD 3A3 3A4 3A5 3A6 3A7
   3A8 3A9 3AA 3AB 3AC 3AD 3AE 3AF 3B0 3B1 3B2 3B3 3B4 3B5 3B6 3B7 3B8 3B9 3BA 3BB 3BC 3BD 3BE
   3BF 3C0 3C1 3C2 3C3 3C4 3C5 3C6 3C7 3C8 3C9 3CA 3CB 3CC 3CD 3CE FFFD"

/-- The page `cp1254`. -/
def cp1254 : Page := ofTable
  "20AC FFFD 201A 192 201E 2026 2020 2021 2C6 2030 160 2039 152 FFFD FFFD FFFD FFFD 2018 2019
   201C 201D 2022 2013 2014 2DC 2122 161 203A 153 FFFD FFFD 178 A0 A1 A2 A3 A4 A5 A6 A7 A8 A9
   AA AB AC AD AE AF B0 B1 B2 B3 B4 B5 B6 B7 B8 B9 BA BB BC BD BE BF C0 C1 C2 C3 C4 C5 C6 C7 C8
   C9 CA CB CC CD CE CF 11E D1 D2 D3 D4 D5 D6 D7 D8 D9 DA DB DC 130 15E DF E0 E1 E2 E3 E4 E5 E6
   E7 E8 E9 EA EB EC ED EE EF 11F F1 F2 F3 F4 F5 F6 F7 F8 F9 FA FB FC 131 15F FF"

/-- The page `cp1255`. -/
def cp1255 : Page := ofTable
  "20AC FFFD 201A 192 201E 2026 2020 2021 2C6 2030 FFFD 2039 FFFD FFFD FFFD FFFD FFFD 2018 2019
   201C 201D 2022 2013 2014 2DC 2122 FFFD 203A FFFD FFFD FFFD FFFD A0 A1 A2 A3 20AA A5 A6 A7 A8
   A9 D7 AB AC AD AE AF B0 B1 B2 B3 B4 B5 B6 B7 B8 B9 F7 BB BC BD BE BF 5B0 5B1 5B2 5B3 5B4 5B5
   5B6 5B7 5B8 5B9 FFFD 5BB 5BC 5BD 5BE 5BF 5C0 5C1 5C2 5C3 5F0 5F1 5F2 5F3 5F4 FFFD FFFD FFFD
   FFFD FFFD FFFD FFFD 5D0 5D1 5D2 5D3 5D4 5D5 5D6 5D7 5D8 5D9 5DA 5DB 5DC 5DD 5DE 5DF 5E0 5E1
   5E2 5E3 5E4 5E5 5E6 5E7 5E8 5E9 5EA FFFD FFFD 200E 200F FFFD"

/-- The page `cp1256`. -/
def cp1256 : Page := ofTable
  "20AC 67E 201A 192 201E 2026 2020 2021 2C6 2030 679 2039 152 686 698 688 6AF 2018 2019 201C
   201D 2022 2013 2014 6A9 2122 691 203A 153 200C 200D 6BA A0 60C A2 A3 A4 A5 A6 A7 A8 A9 6BE
   AB AC AD AE AF B0 B1 B2 B3 B4 B5 B6 B7 B8 B9 61B BB BC BD BE 61F 6C1 621 622 623 624 625 626
   627 628 629 62A 62B 62C 62D 62E 62F 630 631 632 633 634 635 636 D7 637 638 639 63A 640 641
   642 643 E0 644 E2 645 646 647 648 E7 E8 E9 EA EB 649 64A EE EF 64B 64C 64D 64E F4 64F 650 F7
   651 F9 652 FB FC 200E 200F 6D2"

/-- The page `cp1257`. -/
def cp1257 : Page := ofTable
  "20AC FFFD 201A FFFD 201E 2026 2020 2021 FFFD 2030 FFFD 2039 FFFD A8 2C7 B8 FFFD 2018 2019
   201C 201D 2022 2013 2014 FFFD 2122 FFFD 203A FFFD AF 2DB FFFD A0 FFFD A2 A3 A4 FFFD A6 A7 D8
   A9 156 AB AC AD AE C6 B0 B1 B2 B3 B4 B5 B6 B7 F8 B9 157 BB BC BD BE E6 104 12E 100 106 C4 C5
   118 112 10C C9 179 116 122 136 12A 13B 160 143 145 D3 14C D5 D6 D7 172 141 15A 16A DC 17B
   17D DF 105 12F 101 107 E4 E5 119 113 10D E9 17A 117 123 137 12B 13C 161 144 146 F3 14D F5 F6
   F7 173 142 15B 16B FC 17C 17E 2D9"

/-- The page `cp1258`. -/
def cp1258 : Page := ofTable
  "20AC FFFD 201A 192 201E 2026 2020 2021 2C6 2030 FFFD 2039 152 FFFD FFFD FFFD FFFD 2018 2019
   201C 201D 2022 2013 2014 2DC 2122 FFFD 203A 153 FFFD FFFD 178 A0 A1 A2 A3 A4 A5 A6 A7 A8 A9
   AA AB AC AD AE AF B0 B1 B2 B3 B4 B5 B6 B7 B8 B9 BA BB BC BD BE BF C0 C1 C2 102 C4 C5 C6 C7
   C8 C9 CA CB 300 CD CE CF 110 D1 309 D3 D4 1A0 D6 D7 D8 D9 DA DB DC 1AF 303 DF E0 E1 E2 103
   E4 E5 E6 E7 E8 E9 EA EB 301 ED EE EF 111 F1 323 F3 F4 1A1 F6 F7 F8 F9 FA FB FC 1B0 20AB FF"

/-- The page `cp874`. -/
def cp874 : Page := ofTable
  "20AC FFFD FFFD FFFD FFFD 2026 FFFD FFFD FFFD FFFD FFFD FFFD FFFD FFFD FFFD FFFD FFFD 2018
   2019 201C 201D 2022 2013 2014 FFFD FFFD FFFD FFFD FFFD FFFD FFFD FFFD A0 E01 E02 E03 E04 E05
   E06 E07 E08 E09 E0A E0B E0C E0D E0E E0F E10 E11 E12 E13 E14 E15 E16 E17 E18 E19 E1A E1B E1C
   E1D E1E E1F E20 E21 E22 E23 E24 E25 E26 E27 E28 E29 E2A E2B E2C E2D E2E E2F E30 E31 E32 E33
   E34 E35 E36 E37 E38 E39 E3A FFFD FFFD FFFD FFFD E3F E40 E41 E42 E43 E44 E45 E46 E47 E48 E49
   E4A E4B E4C E4D E4E E4F E50 E51 E52 E53 E54 E55 E56 E57 E58 E59 E5A E5B FFFD FFFD FFFD FFFD"

end ContractVerifier.Charset.Page
