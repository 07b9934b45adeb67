import BundleHost.Unicode.Table

/-!
# Scripts

The script of every character, by its long name, and the four-letter names of the scripts.
-/

namespace BundleHost.Unicode.Script

/-- The short names of the scripts, each with the long name. -/
def names : List (String × String) :=
  (words
  "Adlm:Adlam Aghb:Caucasian_Albanian Ahom:Ahom Arab:Arabic Armi:Imperial_Aramaic Armn:Armenian
   Avst:Avestan Bali:Balinese Bamu:Bamum Bass:Bassa_Vah Batk:Batak Beng:Bengali Bhks:Bhaiksuki
   Bopo:Bopomofo Brah:Brahmi Brai:Braille Bugi:Buginese Buhd:Buhid Cakm:Chakma
   Cans:Canadian_Aboriginal Cari:Carian Cham:Cham Cher:Cherokee Chrs:Chorasmian Copt:Coptic
   Qaac:Coptic Cpmn:Cypro_Minoan Cprt:Cypriot Cyrl:Cyrillic Deva:Devanagari Diak:Dives_Akuru
   Dogr:Dogra Dsrt:Deseret Dupl:Duployan Egyp:Egyptian_Hieroglyphs Elba:Elbasan Elym:Elymaic
   Ethi:Ethiopic Gara:Garay Geor:Georgian Glag:Glagolitic Gong:Gunjala_Gondi Gonm:Masaram_Gondi
   Goth:Gothic Gran:Grantha Grek:Greek Gujr:Gujarati Gukh:Gurung_Khema Guru:Gurmukhi Hang:Hangul
   Hani:Han Hano:Hanunoo Hatr:Hatran Hebr:Hebrew Hira:Hiragana Hluw:Anatolian_Hieroglyphs
   Hmng:Pahawh_Hmong Hmnp:Nyiakeng_Puachue_Hmong Hung:Old_Hungarian Ital:Old_Italic Java:Javanese
   Kali:Kayah_Li Kana:Katakana Kawi:Kawi Khar:Kharoshthi Khmr:Khmer Khoj:Khojki
   Kits:Khitan_Small_Script Knda:Kannada Krai:Kirat_Rai Kthi:Kaithi Lana:Tai_Tham Laoo:Lao
   Latn:Latin Lepc:Lepcha Limb:Limbu Lina:Linear_A Linb:Linear_B Lisu:Lisu Lyci:Lycian Lydi:Lydian
   Mahj:Mahajani Maka:Makasar Mand:Mandaic Mani:Manichaean Marc:Marchen Medf:Medefaidrin
   Mend:Mende_Kikakui Merc:Meroitic_Cursive Mero:Meroitic_Hieroglyphs Mlym:Malayalam Modi:Modi
   Mong:Mongolian Mroo:Mro Mtei:Meetei_Mayek Mult:Multani Mymr:Myanmar Nagm:Nag_Mundari
   Nand:Nandinagari Narb:Old_North_Arabian Nbat:Nabataean Newa:Newa Nkoo:Nko Nshu:Nushu Ogam:Ogham
   Olck:Ol_Chiki Onao:Ol_Onal Orkh:Old_Turkic Orya:Oriya Osge:Osage Osma:Osmanya Ougr:Old_Uyghur
   Palm:Palmyrene Pauc:Pau_Cin_Hau Perm:Old_Permic Phag:Phags_Pa Phli:Inscriptional_Pahlavi
   Phlp:Psalter_Pahlavi Phnx:Phoenician Plrd:Miao Prti:Inscriptional_Parthian Rjng:Rejang
   Rohg:Hanifi_Rohingya Runr:Runic Samr:Samaritan Sarb:Old_South_Arabian Saur:Saurashtra
   Sgnw:SignWriting Shaw:Shavian Shrd:Sharada Sidd:Siddham Sind:Khudawadi Sinh:Sinhala
   Sogd:Sogdian Sogo:Old_Sogdian Sora:Sora_Sompeng Soyo:Soyombo Sund:Sundanese Sunu:Sunuwar
   Sylo:Syloti_Nagri Syrc:Syriac Tagb:Tagbanwa Takr:Takri Tale:Tai_Le Talu:New_Tai_Lue Taml:Tamil
   Tang:Tangut Tavt:Tai_Viet Telu:Telugu Tfng:Tifinagh Tglg:Tagalog Thaa:Thaana Thai:Thai
   Tibt:Tibetan Tirh:Tirhuta Tnsa:Tangsa Todr:Todhri Toto:Toto Tutg:Tulu_Tigalari Ugar:Ugaritic
   Vaii:Vai Vith:Vithkuqi Wara:Warang_Citi Wcho:Wancho Xpeo:Old_Persian Xsux:Cuneiform Yezi:Yezidi
   Yiii:Yi Zanb:Zanabazar_Square Zinh:Inherited Qaai:Inherited Zyyy:Common
   Zzzz:Unknown").map fun word =>
    let (short, long) := cut ':' word
    (String.ofList short, String.ofList long)

/-- Where each script begins; it holds up to the next entry. -/
def table : Runs String := Runs.ofText some
  "0:Common 41:Latin 5B:Common 61:Latin 7B:Common AA:Latin AB:Common BA:Latin BB:Common C0:Latin
   D7:Common D8:Latin F7:Common F8:Latin 2B9:Common 2E0:Latin 2E5:Common 2EA:Bopomofo 2EC:Common
   300:Inherited 370:Greek 374:Common 375:Greek 378:Unknown 37A:Greek 37E:Common 37F:Greek
   380:Unknown 384:Greek 385:Common 386:Greek 387:Common 388:Greek 38B:Unknown 38C:Greek
   38D:Unknown 38E:Greek 3A2:Unknown 3A3:Greek 3E2:Coptic 3F0:Greek 400:Cyrillic 485:Inherited
   487:Cyrillic 530:Unknown 531:Armenian 557:Unknown 559:Armenian 58B:Unknown 58D:Armenian
   590:Unknown 591:Hebrew 5C8:Unknown 5D0:Hebrew 5EB:Unknown 5EF:Hebrew 5F5:Unknown 600:Arabic
   605:Common 606:Arabic 60C:Common 60D:Arabic 61B:Common 61C:Arabic 61F:Common 620:Arabic
   640:Common 641:Arabic 64B:Inherited 656:Arabic 670:Inherited 671:Arabic 6DD:Common 6DE:Arabic
   700:Syriac 70E:Unknown 70F:Syriac 74B:Unknown 74D:Syriac 750:Arabic 780:Thaana 7B2:Unknown
   7C0:Nko 7FB:Unknown 7FD:Nko 800:Samaritan 82E:Unknown 830:Samaritan 83F:Unknown 840:Mandaic
   85C:Unknown 85E:Mandaic 85F:Unknown 860:Syriac 86B:Unknown 870:Arabic 88F:Unknown 890:Arabic
   892:Unknown 897:Arabic 8E2:Common 8E3:Arabic 900:Devanagari 951:Inherited 955:Devanagari
   964:Common 966:Devanagari 980:Bengali 984:Unknown 985:Bengali 98D:Unknown 98F:Bengali
   991:Unknown 993:Bengali 9A9:Unknown 9AA:Bengali 9B1:Unknown 9B2:Bengali 9B3:Unknown 9B6:Bengali
   9BA:Unknown 9BC:Bengali 9C5:Unknown 9C7:Bengali 9C9:Unknown 9CB:Bengali 9CF:Unknown 9D7:Bengali
   9D8:Unknown 9DC:Bengali 9DE:Unknown 9DF:Bengali 9E4:Unknown 9E6:Bengali 9FF:Unknown
   A01:Gurmukhi A04:Unknown A05:Gurmukhi A0B:Unknown A0F:Gurmukhi A11:Unknown A13:Gurmukhi
   A29:Unknown A2A:Gurmukhi A31:Unknown A32:Gurmukhi A34:Unknown A35:Gurmukhi A37:Unknown
   A38:Gurmukhi A3A:Unknown A3C:Gurmukhi A3D:Unknown A3E:Gurmukhi A43:Unknown A47:Gurmukhi
   A49:Unknown A4B:Gurmukhi A4E:Unknown A51:Gurmukhi A52:Unknown A59:Gurmukhi A5D:Unknown
   A5E:Gurmukhi A5F:Unknown A66:Gurmukhi A77:Unknown A81:Gujarati A84:Unknown A85:Gujarati
   A8E:Unknown A8F:Gujarati A92:Unknown A93:Gujarati AA9:Unknown AAA:Gujarati AB1:Unknown
   AB2:Gujarati AB4:Unknown AB5:Gujarati ABA:Unknown ABC:Gujarati AC6:Unknown AC7:Gujarati
   ACA:Unknown ACB:Gujarati ACE:Unknown AD0:Gujarati AD1:Unknown AE0:Gujarati AE4:Unknown
   AE6:Gujarati AF2:Unknown AF9:Gujarati B00:Unknown B01:Oriya B04:Unknown B05:Oriya B0D:Unknown
   B0F:Oriya B11:Unknown B13:Oriya B29:Unknown B2A:Oriya B31:Unknown B32:Oriya B34:Unknown
   B35:Oriya B3A:Unknown B3C:Oriya B45:Unknown B47:Oriya B49:Unknown B4B:Oriya B4E:Unknown
   B55:Oriya B58:Unknown B5C:Oriya B5E:Unknown B5F:Oriya B64:Unknown B66:Oriya B78:Unknown
   B82:Tamil B84:Unknown B85:Tamil B8B:Unknown B8E:Tamil B91:Unknown B92:Tamil B96:Unknown
   B99:Tamil B9B:Unknown B9C:Tamil B9D:Unknown B9E:Tamil BA0:Unknown BA3:Tamil BA5:Unknown
   BA8:Tamil BAB:Unknown BAE:Tamil BBA:Unknown BBE:Tamil BC3:Unknown BC6:Tamil BC9:Unknown
   BCA:Tamil BCE:Unknown BD0:Tamil BD1:Unknown BD7:Tamil BD8:Unknown BE6:Tamil BFB:Unknown
   C00:Telugu C0D:Unknown C0E:Telugu C11:Unknown C12:Telugu C29:Unknown C2A:Telugu C3A:Unknown
   C3C:Telugu C45:Unknown C46:Telugu C49:Unknown C4A:Telugu C4E:Unknown C55:Telugu C57:Unknown
   C58:Telugu C5B:Unknown C5D:Telugu C5E:Unknown C60:Telugu C64:Unknown C66:Telugu C70:Unknown
   C77:Telugu C80:Kannada C8D:Unknown C8E:Kannada C91:Unknown C92:Kannada CA9:Unknown CAA:Kannada
   CB4:Unknown CB5:Kannada CBA:Unknown CBC:Kannada CC5:Unknown CC6:Kannada CC9:Unknown CCA:Kannada
   CCE:Unknown CD5:Kannada CD7:Unknown CDD:Kannada CDF:Unknown CE0:Kannada CE4:Unknown CE6:Kannada
   CF0:Unknown CF1:Kannada CF4:Unknown D00:Malayalam D0D:Unknown D0E:Malayalam D11:Unknown
   D12:Malayalam D45:Unknown D46:Malayalam D49:Unknown D4A:Malayalam D50:Unknown D54:Malayalam
   D64:Unknown D66:Malayalam D80:Unknown D81:Sinhala D84:Unknown D85:Sinhala D97:Unknown
   D9A:Sinhala DB2:Unknown DB3:Sinhala DBC:Unknown DBD:Sinhala DBE:Unknown DC0:Sinhala DC7:Unknown
   DCA:Sinhala DCB:Unknown DCF:Sinhala DD5:Unknown DD6:Sinhala DD7:Unknown DD8:Sinhala DE0:Unknown
   DE6:Sinhala DF0:Unknown DF2:Sinhala DF5:Unknown E01:Thai E3B:Unknown E3F:Common E40:Thai
   E5C:Unknown E81:Lao E83:Unknown E84:Lao E85:Unknown E86:Lao E8B:Unknown E8C:Lao EA4:Unknown
   EA5:Lao EA6:Unknown EA7:Lao EBE:Unknown EC0:Lao EC5:Unknown EC6:Lao EC7:Unknown EC8:Lao
   ECF:Unknown ED0:Lao EDA:Unknown EDC:Lao EE0:Unknown F00:Tibetan F48:Unknown F49:Tibetan
   F6D:Unknown F71:Tibetan F98:Unknown F99:Tibetan FBD:Unknown FBE:Tibetan FCD:Unknown FCE:Tibetan
   FD5:Common FD9:Tibetan FDB:Unknown 1000:Myanmar 10A0:Georgian 10C6:Unknown 10C7:Georgian
   10C8:Unknown 10CD:Georgian 10CE:Unknown 10D0:Georgian 10FB:Common 10FC:Georgian 1100:Hangul
   1200:Ethiopic 1249:Unknown 124A:Ethiopic 124E:Unknown 1250:Ethiopic 1257:Unknown 1258:Ethiopic
   1259:Unknown 125A:Ethiopic 125E:Unknown 1260:Ethiopic 1289:Unknown 128A:Ethiopic 128E:Unknown
   1290:Ethiopic 12B1:Unknown 12B2:Ethiopic 12B6:Unknown 12B8:Ethiopic 12BF:Unknown 12C0:Ethiopic
   12C1:Unknown 12C2:Ethiopic 12C6:Unknown 12C8:Ethiopic 12D7:Unknown 12D8:Ethiopic 1311:Unknown
   1312:Ethiopic 1316:Unknown 1318:Ethiopic 135B:Unknown 135D:Ethiopic 137D:Unknown 1380:Ethiopic
   139A:Unknown 13A0:Cherokee 13F6:Unknown 13F8:Cherokee 13FE:Unknown 1400:Canadian_Aboriginal
   1680:Ogham 169D:Unknown 16A0:Runic 16EB:Common 16EE:Runic 16F9:Unknown 1700:Tagalog
   1716:Unknown 171F:Tagalog 1720:Hanunoo 1735:Common 1737:Unknown 1740:Buhid 1754:Unknown
   1760:Tagbanwa 176D:Unknown 176E:Tagbanwa 1771:Unknown 1772:Tagbanwa 1774:Unknown 1780:Khmer
   17DE:Unknown 17E0:Khmer 17EA:Unknown 17F0:Khmer 17FA:Unknown 1800:Mongolian 1802:Common
   1804:Mongolian 1805:Common 1806:Mongolian 181A:Unknown 1820:Mongolian 1879:Unknown
   1880:Mongolian 18AB:Unknown 18B0:Canadian_Aboriginal 18F6:Unknown 1900:Limbu 191F:Unknown
   1920:Limbu 192C:Unknown 1930:Limbu 193C:Unknown 1940:Limbu 1941:Unknown 1944:Limbu 1950:Tai_Le
   196E:Unknown 1970:Tai_Le 1975:Unknown 1980:New_Tai_Lue 19AC:Unknown 19B0:New_Tai_Lue
   19CA:Unknown 19D0:New_Tai_Lue 19DB:Unknown 19DE:New_Tai_Lue 19E0:Khmer 1A00:Buginese
   1A1C:Unknown 1A1E:Buginese 1A20:Tai_Tham 1A5F:Unknown 1A60:Tai_Tham 1A7D:Unknown 1A7F:Tai_Tham
   1A8A:Unknown 1A90:Tai_Tham 1A9A:Unknown 1AA0:Tai_Tham 1AAE:Unknown 1AB0:Inherited 1ACF:Unknown
   1B00:Balinese 1B4D:Unknown 1B4E:Balinese 1B80:Sundanese 1BC0:Batak 1BF4:Unknown 1BFC:Batak
   1C00:Lepcha 1C38:Unknown 1C3B:Lepcha 1C4A:Unknown 1C4D:Lepcha 1C50:Ol_Chiki 1C80:Cyrillic
   1C8B:Unknown 1C90:Georgian 1CBB:Unknown 1CBD:Georgian 1CC0:Sundanese 1CC8:Unknown
   1CD0:Inherited 1CD3:Common 1CD4:Inherited 1CE1:Common 1CE2:Inherited 1CE9:Common 1CED:Inherited
   1CEE:Common 1CF4:Inherited 1CF5:Common 1CF8:Inherited 1CFA:Common 1CFB:Unknown 1D00:Latin
   1D26:Greek 1D2B:Cyrillic 1D2C:Latin 1D5D:Greek 1D62:Latin 1D66:Greek 1D6B:Latin 1D78:Cyrillic
   1D79:Latin 1DBF:Greek 1DC0:Inherited 1E00:Latin 1F00:Greek 1F16:Unknown 1F18:Greek 1F1E:Unknown
   1F20:Greek 1F46:Unknown 1F48:Greek 1F4E:Unknown 1F50:Greek 1F58:Unknown 1F59:Greek 1F5A:Unknown
   1F5B:Greek 1F5C:Unknown 1F5D:Greek 1F5E:Unknown 1F5F:Greek 1F7E:Unknown 1F80:Greek 1FB5:Unknown
   1FB6:Greek 1FC5:Unknown 1FC6:Greek 1FD4:Unknown 1FD6:Greek 1FDC:Unknown 1FDD:Greek 1FF0:Unknown
   1FF2:Greek 1FF5:Unknown 1FF6:Greek 1FFF:Unknown 2000:Common 200C:Inherited 200E:Common
   2065:Unknown 2066:Common 2071:Latin 2072:Unknown 2074:Common 207F:Latin 2080:Common
   208F:Unknown 2090:Latin 209D:Unknown 20A0:Common 20C1:Unknown 20D0:Inherited 20F1:Unknown
   2100:Common 2126:Greek 2127:Common 212A:Latin 212C:Common 2132:Latin 2133:Common 214E:Latin
   214F:Common 2160:Latin 2189:Common 218C:Unknown 2190:Common 242A:Unknown 2440:Common
   244B:Unknown 2460:Common 2800:Braille 2900:Common 2B74:Unknown 2B76:Common 2B96:Unknown
   2B97:Common 2C00:Glagolitic 2C60:Latin 2C80:Coptic 2CF4:Unknown 2CF9:Coptic 2D00:Georgian
   2D26:Unknown 2D27:Georgian 2D28:Unknown 2D2D:Georgian 2D2E:Unknown 2D30:Tifinagh 2D68:Unknown
   2D6F:Tifinagh 2D71:Unknown 2D7F:Tifinagh 2D80:Ethiopic 2D97:Unknown 2DA0:Ethiopic 2DA7:Unknown
   2DA8:Ethiopic 2DAF:Unknown 2DB0:Ethiopic 2DB7:Unknown 2DB8:Ethiopic 2DBF:Unknown 2DC0:Ethiopic
   2DC7:Unknown 2DC8:Ethiopic 2DCF:Unknown 2DD0:Ethiopic 2DD7:Unknown 2DD8:Ethiopic 2DDF:Unknown
   2DE0:Cyrillic 2E00:Common 2E5E:Unknown 2E80:Han 2E9A:Unknown 2E9B:Han 2EF4:Unknown 2F00:Han
   2FD6:Unknown 2FF0:Common 3005:Han 3006:Common 3007:Han 3008:Common 3021:Han 302A:Inherited
   302E:Hangul 3030:Common 3038:Han 303C:Common 3040:Unknown 3041:Hiragana 3097:Unknown
   3099:Inherited 309B:Common 309D:Hiragana 30A0:Common 30A1:Katakana 30FB:Common 30FD:Katakana
   3100:Unknown 3105:Bopomofo 3130:Unknown 3131:Hangul 318F:Unknown 3190:Common 31A0:Bopomofo
   31C0:Common 31E6:Unknown 31EF:Common 31F0:Katakana 3200:Hangul 321F:Unknown 3220:Common
   3260:Hangul 327F:Common 32D0:Katakana 32FF:Common 3300:Katakana 3358:Common 3400:Han
   4DC0:Common 4E00:Han A000:Yi A48D:Unknown A490:Yi A4C7:Unknown A4D0:Lisu A500:Vai A62C:Unknown
   A640:Cyrillic A6A0:Bamum A6F8:Unknown A700:Common A722:Latin A788:Common A78B:Latin
   A7CE:Unknown A7D0:Latin A7D2:Unknown A7D3:Latin A7D4:Unknown A7D5:Latin A7DD:Unknown A7F2:Latin
   A800:Syloti_Nagri A82D:Unknown A830:Common A83A:Unknown A840:Phags_Pa A878:Unknown
   A880:Saurashtra A8C6:Unknown A8CE:Saurashtra A8DA:Unknown A8E0:Devanagari A900:Kayah_Li
   A92E:Common A92F:Kayah_Li A930:Rejang A954:Unknown A95F:Rejang A960:Hangul A97D:Unknown
   A980:Javanese A9CE:Unknown A9CF:Common A9D0:Javanese A9DA:Unknown A9DE:Javanese A9E0:Myanmar
   A9FF:Unknown AA00:Cham AA37:Unknown AA40:Cham AA4E:Unknown AA50:Cham AA5A:Unknown AA5C:Cham
   AA60:Myanmar AA80:Tai_Viet AAC3:Unknown AADB:Tai_Viet AAE0:Meetei_Mayek AAF7:Unknown
   AB01:Ethiopic AB07:Unknown AB09:Ethiopic AB0F:Unknown AB11:Ethiopic AB17:Unknown AB20:Ethiopic
   AB27:Unknown AB28:Ethiopic AB2F:Unknown AB30:Latin AB5B:Common AB5C:Latin AB65:Greek AB66:Latin
   AB6A:Common AB6C:Unknown AB70:Cherokee ABC0:Meetei_Mayek ABEE:Unknown ABF0:Meetei_Mayek
   ABFA:Unknown AC00:Hangul D7A4:Unknown D7B0:Hangul D7C7:Unknown D7CB:Hangul D7FC:Unknown
   F900:Han FA6E:Unknown FA70:Han FADA:Unknown FB00:Latin FB07:Unknown FB13:Armenian FB18:Unknown
   FB1D:Hebrew FB37:Unknown FB38:Hebrew FB3D:Unknown FB3E:Hebrew FB3F:Unknown FB40:Hebrew
   FB42:Unknown FB43:Hebrew FB45:Unknown FB46:Hebrew FB50:Arabic FBC3:Unknown FBD3:Arabic
   FD3E:Common FD40:Arabic FD90:Unknown FD92:Arabic FDC8:Unknown FDCF:Arabic FDD0:Unknown
   FDF0:Arabic FE00:Inherited FE10:Common FE1A:Unknown FE20:Inherited FE2E:Cyrillic FE30:Common
   FE53:Unknown FE54:Common FE67:Unknown FE68:Common FE6C:Unknown FE70:Arabic FE75:Unknown
   FE76:Arabic FEFD:Unknown FEFF:Common FF00:Unknown FF01:Common FF21:Latin FF3B:Common FF41:Latin
   FF5B:Common FF66:Katakana FF70:Common FF71:Katakana FF9E:Common FFA0:Hangul FFBF:Unknown
   FFC2:Hangul FFC8:Unknown FFCA:Hangul FFD0:Unknown FFD2:Hangul FFD8:Unknown FFDA:Hangul
   FFDD:Unknown FFE0:Common FFE7:Unknown FFE8:Common FFEF:Unknown FFF9:Common FFFE:Unknown
   10000:Linear_B 1000C:Unknown 1000D:Linear_B 10027:Unknown 10028:Linear_B 1003B:Unknown
   1003C:Linear_B 1003E:Unknown 1003F:Linear_B 1004E:Unknown 10050:Linear_B 1005E:Unknown
   10080:Linear_B 100FB:Unknown 10100:Common 10103:Unknown 10107:Common 10134:Unknown 10137:Common
   10140:Greek 1018F:Unknown 10190:Common 1019D:Unknown 101A0:Greek 101A1:Unknown 101D0:Common
   101FD:Inherited 101FE:Unknown 10280:Lycian 1029D:Unknown 102A0:Carian 102D1:Unknown
   102E0:Inherited 102E1:Common 102FC:Unknown 10300:Old_Italic 10324:Unknown 1032D:Old_Italic
   10330:Gothic 1034B:Unknown 10350:Old_Permic 1037B:Unknown 10380:Ugaritic 1039E:Unknown
   1039F:Ugaritic 103A0:Old_Persian 103C4:Unknown 103C8:Old_Persian 103D6:Unknown 10400:Deseret
   10450:Shavian 10480:Osmanya 1049E:Unknown 104A0:Osmanya 104AA:Unknown 104B0:Osage 104D4:Unknown
   104D8:Osage 104FC:Unknown 10500:Elbasan 10528:Unknown 10530:Caucasian_Albanian 10564:Unknown
   1056F:Caucasian_Albanian 10570:Vithkuqi 1057B:Unknown 1057C:Vithkuqi 1058B:Unknown
   1058C:Vithkuqi 10593:Unknown 10594:Vithkuqi 10596:Unknown 10597:Vithkuqi 105A2:Unknown
   105A3:Vithkuqi 105B2:Unknown 105B3:Vithkuqi 105BA:Unknown 105BB:Vithkuqi 105BD:Unknown
   105C0:Todhri 105F4:Unknown 10600:Linear_A 10737:Unknown 10740:Linear_A 10756:Unknown
   10760:Linear_A 10768:Unknown 10780:Latin 10786:Unknown 10787:Latin 107B1:Unknown 107B2:Latin
   107BB:Unknown 10800:Cypriot 10806:Unknown 10808:Cypriot 10809:Unknown 1080A:Cypriot
   10836:Unknown 10837:Cypriot 10839:Unknown 1083C:Cypriot 1083D:Unknown 1083F:Cypriot
   10840:Imperial_Aramaic 10856:Unknown 10857:Imperial_Aramaic 10860:Palmyrene 10880:Nabataean
   1089F:Unknown 108A7:Nabataean 108B0:Unknown 108E0:Hatran 108F3:Unknown 108F4:Hatran
   108F6:Unknown 108FB:Hatran 10900:Phoenician 1091C:Unknown 1091F:Phoenician 10920:Lydian
   1093A:Unknown 1093F:Lydian 10940:Unknown 10980:Meroitic_Hieroglyphs 109A0:Meroitic_Cursive
   109B8:Unknown 109BC:Meroitic_Cursive 109D0:Unknown 109D2:Meroitic_Cursive 10A00:Kharoshthi
   10A04:Unknown 10A05:Kharoshthi 10A07:Unknown 10A0C:Kharoshthi 10A14:Unknown 10A15:Kharoshthi
   10A18:Unknown 10A19:Kharoshthi 10A36:Unknown 10A38:Kharoshthi 10A3B:Unknown 10A3F:Kharoshthi
   10A49:Unknown 10A50:Kharoshthi 10A59:Unknown 10A60:Old_South_Arabian 10A80:Old_North_Arabian
   10AA0:Unknown 10AC0:Manichaean 10AE7:Unknown 10AEB:Manichaean 10AF7:Unknown 10B00:Avestan
   10B36:Unknown 10B39:Avestan 10B40:Inscriptional_Parthian 10B56:Unknown
   10B58:Inscriptional_Parthian 10B60:Inscriptional_Pahlavi 10B73:Unknown
   10B78:Inscriptional_Pahlavi 10B80:Psalter_Pahlavi 10B92:Unknown 10B99:Psalter_Pahlavi
   10B9D:Unknown 10BA9:Psalter_Pahlavi 10BB0:Unknown 10C00:Old_Turkic 10C49:Unknown
   10C80:Old_Hungarian 10CB3:Unknown 10CC0:Old_Hungarian 10CF3:Unknown 10CFA:Old_Hungarian
   10D00:Hanifi_Rohingya 10D28:Unknown 10D30:Hanifi_Rohingya 10D3A:Unknown 10D40:Garay
   10D66:Unknown 10D69:Garay 10D86:Unknown 10D8E:Garay 10D90:Unknown 10E60:Arabic 10E7F:Unknown
   10E80:Yezidi 10EAA:Unknown 10EAB:Yezidi 10EAE:Unknown 10EB0:Yezidi 10EB2:Unknown 10EC2:Arabic
   10EC5:Unknown 10EFC:Arabic 10F00:Old_Sogdian 10F28:Unknown 10F30:Sogdian 10F5A:Unknown
   10F70:Old_Uyghur 10F8A:Unknown 10FB0:Chorasmian 10FCC:Unknown 10FE0:Elymaic 10FF7:Unknown
   11000:Brahmi 1104E:Unknown 11052:Brahmi 11076:Unknown 1107F:Brahmi 11080:Kaithi 110C3:Unknown
   110CD:Kaithi 110CE:Unknown 110D0:Sora_Sompeng 110E9:Unknown 110F0:Sora_Sompeng 110FA:Unknown
   11100:Chakma 11135:Unknown 11136:Chakma 11148:Unknown 11150:Mahajani 11177:Unknown
   11180:Sharada 111E0:Unknown 111E1:Sinhala 111F5:Unknown 11200:Khojki 11212:Unknown 11213:Khojki
   11242:Unknown 11280:Multani 11287:Unknown 11288:Multani 11289:Unknown 1128A:Multani
   1128E:Unknown 1128F:Multani 1129E:Unknown 1129F:Multani 112AA:Unknown 112B0:Khudawadi
   112EB:Unknown 112F0:Khudawadi 112FA:Unknown 11300:Grantha 11304:Unknown 11305:Grantha
   1130D:Unknown 1130F:Grantha 11311:Unknown 11313:Grantha 11329:Unknown 1132A:Grantha
   11331:Unknown 11332:Grantha 11334:Unknown 11335:Grantha 1133A:Unknown 1133B:Inherited
   1133C:Grantha 11345:Unknown 11347:Grantha 11349:Unknown 1134B:Grantha 1134E:Unknown
   11350:Grantha 11351:Unknown 11357:Grantha 11358:Unknown 1135D:Grantha 11364:Unknown
   11366:Grantha 1136D:Unknown 11370:Grantha 11375:Unknown 11380:Tulu_Tigalari 1138A:Unknown
   1138B:Tulu_Tigalari 1138C:Unknown 1138E:Tulu_Tigalari 1138F:Unknown 11390:Tulu_Tigalari
   113B6:Unknown 113B7:Tulu_Tigalari 113C1:Unknown 113C2:Tulu_Tigalari 113C3:Unknown
   113C5:Tulu_Tigalari 113C6:Unknown 113C7:Tulu_Tigalari 113CB:Unknown 113CC:Tulu_Tigalari
   113D6:Unknown 113D7:Tulu_Tigalari 113D9:Unknown 113E1:Tulu_Tigalari 113E3:Unknown 11400:Newa
   1145C:Unknown 1145D:Newa 11462:Unknown 11480:Tirhuta 114C8:Unknown 114D0:Tirhuta 114DA:Unknown
   11580:Siddham 115B6:Unknown 115B8:Siddham 115DE:Unknown 11600:Modi 11645:Unknown 11650:Modi
   1165A:Unknown 11660:Mongolian 1166D:Unknown 11680:Takri 116BA:Unknown 116C0:Takri 116CA:Unknown
   116D0:Myanmar 116E4:Unknown 11700:Ahom 1171B:Unknown 1171D:Ahom 1172C:Unknown 11730:Ahom
   11747:Unknown 11800:Dogra 1183C:Unknown 118A0:Warang_Citi 118F3:Unknown 118FF:Warang_Citi
   11900:Dives_Akuru 11907:Unknown 11909:Dives_Akuru 1190A:Unknown 1190C:Dives_Akuru 11914:Unknown
   11915:Dives_Akuru 11917:Unknown 11918:Dives_Akuru 11936:Unknown 11937:Dives_Akuru 11939:Unknown
   1193B:Dives_Akuru 11947:Unknown 11950:Dives_Akuru 1195A:Unknown 119A0:Nandinagari 119A8:Unknown
   119AA:Nandinagari 119D8:Unknown 119DA:Nandinagari 119E5:Unknown 11A00:Zanabazar_Square
   11A48:Unknown 11A50:Soyombo 11AA3:Unknown 11AB0:Canadian_Aboriginal 11AC0:Pau_Cin_Hau
   11AF9:Unknown 11B00:Devanagari 11B0A:Unknown 11BC0:Sunuwar 11BE2:Unknown 11BF0:Sunuwar
   11BFA:Unknown 11C00:Bhaiksuki 11C09:Unknown 11C0A:Bhaiksuki 11C37:Unknown 11C38:Bhaiksuki
   11C46:Unknown 11C50:Bhaiksuki 11C6D:Unknown 11C70:Marchen 11C90:Unknown 11C92:Marchen
   11CA8:Unknown 11CA9:Marchen 11CB7:Unknown 11D00:Masaram_Gondi 11D07:Unknown 11D08:Masaram_Gondi
   11D0A:Unknown 11D0B:Masaram_Gondi 11D37:Unknown 11D3A:Masaram_Gondi 11D3B:Unknown
   11D3C:Masaram_Gondi 11D3E:Unknown 11D3F:Masaram_Gondi 11D48:Unknown 11D50:Masaram_Gondi
   11D5A:Unknown 11D60:Gunjala_Gondi 11D66:Unknown 11D67:Gunjala_Gondi 11D69:Unknown
   11D6A:Gunjala_Gondi 11D8F:Unknown 11D90:Gunjala_Gondi 11D92:Unknown 11D93:Gunjala_Gondi
   11D99:Unknown 11DA0:Gunjala_Gondi 11DAA:Unknown 11EE0:Makasar 11EF9:Unknown 11F00:Kawi
   11F11:Unknown 11F12:Kawi 11F3B:Unknown 11F3E:Kawi 11F5B:Unknown 11FB0:Lisu 11FB1:Unknown
   11FC0:Tamil 11FF2:Unknown 11FFF:Tamil 12000:Cuneiform 1239A:Unknown 12400:Cuneiform
   1246F:Unknown 12470:Cuneiform 12475:Unknown 12480:Cuneiform 12544:Unknown 12F90:Cypro_Minoan
   12FF3:Unknown 13000:Egyptian_Hieroglyphs 13456:Unknown 13460:Egyptian_Hieroglyphs 143FB:Unknown
   14400:Anatolian_Hieroglyphs 14647:Unknown 16100:Gurung_Khema 1613A:Unknown 16800:Bamum
   16A39:Unknown 16A40:Mro 16A5F:Unknown 16A60:Mro 16A6A:Unknown 16A6E:Mro 16A70:Tangsa
   16ABF:Unknown 16AC0:Tangsa 16ACA:Unknown 16AD0:Bassa_Vah 16AEE:Unknown 16AF0:Bassa_Vah
   16AF6:Unknown 16B00:Pahawh_Hmong 16B46:Unknown 16B50:Pahawh_Hmong 16B5A:Unknown
   16B5B:Pahawh_Hmong 16B62:Unknown 16B63:Pahawh_Hmong 16B78:Unknown 16B7D:Pahawh_Hmong
   16B90:Unknown 16D40:Kirat_Rai 16D7A:Unknown 16E40:Medefaidrin 16E9B:Unknown 16F00:Miao
   16F4B:Unknown 16F4F:Miao 16F88:Unknown 16F8F:Miao 16FA0:Unknown 16FE0:Tangut 16FE1:Nushu
   16FE2:Han 16FE4:Khitan_Small_Script 16FE5:Unknown 16FF0:Han 16FF2:Unknown 17000:Tangut
   187F8:Unknown 18800:Tangut 18B00:Khitan_Small_Script 18CD6:Unknown 18CFF:Khitan_Small_Script
   18D00:Tangut 18D09:Unknown 1AFF0:Katakana 1AFF4:Unknown 1AFF5:Katakana 1AFFC:Unknown
   1AFFD:Katakana 1AFFF:Unknown 1B000:Katakana 1B001:Hiragana 1B120:Katakana 1B123:Unknown
   1B132:Hiragana 1B133:Unknown 1B150:Hiragana 1B153:Unknown 1B155:Katakana 1B156:Unknown
   1B164:Katakana 1B168:Unknown 1B170:Nushu 1B2FC:Unknown 1BC00:Duployan 1BC6B:Unknown
   1BC70:Duployan 1BC7D:Unknown 1BC80:Duployan 1BC89:Unknown 1BC90:Duployan 1BC9A:Unknown
   1BC9C:Duployan 1BCA0:Common 1BCA4:Unknown 1CC00:Common 1CCFA:Unknown 1CD00:Common 1CEB4:Unknown
   1CF00:Inherited 1CF2E:Unknown 1CF30:Inherited 1CF47:Unknown 1CF50:Common 1CFC4:Unknown
   1D000:Common 1D0F6:Unknown 1D100:Common 1D127:Unknown 1D129:Common 1D167:Inherited 1D16A:Common
   1D17B:Inherited 1D183:Common 1D185:Inherited 1D18C:Common 1D1AA:Inherited 1D1AE:Common
   1D1EB:Unknown 1D200:Greek 1D246:Unknown 1D2C0:Common 1D2D4:Unknown 1D2E0:Common 1D2F4:Unknown
   1D300:Common 1D357:Unknown 1D360:Common 1D379:Unknown 1D400:Common 1D455:Unknown 1D456:Common
   1D49D:Unknown 1D49E:Common 1D4A0:Unknown 1D4A2:Common 1D4A3:Unknown 1D4A5:Common 1D4A7:Unknown
   1D4A9:Common 1D4AD:Unknown 1D4AE:Common 1D4BA:Unknown 1D4BB:Common 1D4BC:Unknown 1D4BD:Common
   1D4C4:Unknown 1D4C5:Common 1D506:Unknown 1D507:Common 1D50B:Unknown 1D50D:Common 1D515:Unknown
   1D516:Common 1D51D:Unknown 1D51E:Common 1D53A:Unknown 1D53B:Common 1D53F:Unknown 1D540:Common
   1D545:Unknown 1D546:Common 1D547:Unknown 1D54A:Common 1D551:Unknown 1D552:Common 1D6A6:Unknown
   1D6A8:Common 1D7CC:Unknown 1D7CE:Common 1D800:SignWriting 1DA8C:Unknown 1DA9B:SignWriting
   1DAA0:Unknown 1DAA1:SignWriting 1DAB0:Unknown 1DF00:Latin 1DF1F:Unknown 1DF25:Latin
   1DF2B:Unknown 1E000:Glagolitic 1E007:Unknown 1E008:Glagolitic 1E019:Unknown 1E01B:Glagolitic
   1E022:Unknown 1E023:Glagolitic 1E025:Unknown 1E026:Glagolitic 1E02B:Unknown 1E030:Cyrillic
   1E06E:Unknown 1E08F:Cyrillic 1E090:Unknown 1E100:Nyiakeng_Puachue_Hmong 1E12D:Unknown
   1E130:Nyiakeng_Puachue_Hmong 1E13E:Unknown 1E140:Nyiakeng_Puachue_Hmong 1E14A:Unknown
   1E14E:Nyiakeng_Puachue_Hmong 1E150:Unknown 1E290:Toto 1E2AF:Unknown 1E2C0:Wancho 1E2FA:Unknown
   1E2FF:Wancho 1E300:Unknown 1E4D0:Nag_Mundari 1E4FA:Unknown 1E5D0:Ol_Onal 1E5FB:Unknown
   1E5FF:Ol_Onal 1E600:Unknown 1E7E0:Ethiopic 1E7E7:Unknown 1E7E8:Ethiopic 1E7EC:Unknown
   1E7ED:Ethiopic 1E7EF:Unknown 1E7F0:Ethiopic 1E7FF:Unknown 1E800:Mende_Kikakui 1E8C5:Unknown
   1E8C7:Mende_Kikakui 1E8D7:Unknown 1E900:Adlam 1E94C:Unknown 1E950:Adlam 1E95A:Unknown
   1E95E:Adlam 1E960:Unknown 1EC71:Common 1ECB5:Unknown 1ED01:Common 1ED3E:Unknown 1EE00:Arabic
   1EE04:Unknown 1EE05:Arabic 1EE20:Unknown 1EE21:Arabic 1EE23:Unknown 1EE24:Arabic 1EE25:Unknown
   1EE27:Arabic 1EE28:Unknown 1EE29:Arabic 1EE33:Unknown 1EE34:Arabic 1EE38:Unknown 1EE39:Arabic
   1EE3A:Unknown 1EE3B:Arabic 1EE3C:Unknown 1EE42:Arabic 1EE43:Unknown 1EE47:Arabic 1EE48:Unknown
   1EE49:Arabic 1EE4A:Unknown 1EE4B:Arabic 1EE4C:Unknown 1EE4D:Arabic 1EE50:Unknown 1EE51:Arabic
   1EE53:Unknown 1EE54:Arabic 1EE55:Unknown 1EE57:Arabic 1EE58:Unknown 1EE59:Arabic 1EE5A:Unknown
   1EE5B:Arabic 1EE5C:Unknown 1EE5D:Arabic 1EE5E:Unknown 1EE5F:Arabic 1EE60:Unknown 1EE61:Arabic
   1EE63:Unknown 1EE64:Arabic 1EE65:Unknown 1EE67:Arabic 1EE6B:Unknown 1EE6C:Arabic 1EE73:Unknown
   1EE74:Arabic 1EE78:Unknown 1EE79:Arabic 1EE7D:Unknown 1EE7E:Arabic 1EE7F:Unknown 1EE80:Arabic
   1EE8A:Unknown 1EE8B:Arabic 1EE9C:Unknown 1EEA1:Arabic 1EEA4:Unknown 1EEA5:Arabic 1EEAA:Unknown
   1EEAB:Arabic 1EEBC:Unknown 1EEF0:Arabic 1EEF2:Unknown 1F000:Common 1F02C:Unknown 1F030:Common
   1F094:Unknown 1F0A0:Common 1F0AF:Unknown 1F0B1:Common 1F0C0:Unknown 1F0C1:Common 1F0D0:Unknown
   1F0D1:Common 1F0F6:Unknown 1F100:Common 1F1AE:Unknown 1F1E6:Common 1F200:Hiragana 1F201:Common
   1F203:Unknown 1F210:Common 1F23C:Unknown 1F240:Common 1F249:Unknown 1F250:Common 1F252:Unknown
   1F260:Common 1F266:Unknown 1F300:Common 1F6D8:Unknown 1F6DC:Common 1F6ED:Unknown 1F6F0:Common
   1F6FD:Unknown 1F700:Common 1F777:Unknown 1F77B:Common 1F7DA:Unknown 1F7E0:Common 1F7EC:Unknown
   1F7F0:Common 1F7F1:Unknown 1F800:Common 1F80C:Unknown 1F810:Common 1F848:Unknown 1F850:Common
   1F85A:Unknown 1F860:Common 1F888:Unknown 1F890:Common 1F8AE:Unknown 1F8B0:Common 1F8BC:Unknown
   1F8C0:Common 1F8C2:Unknown 1F900:Common 1FA54:Unknown 1FA60:Common 1FA6E:Unknown 1FA70:Common
   1FA7D:Unknown 1FA80:Common 1FA8A:Unknown 1FA8F:Common 1FAC7:Unknown 1FACE:Common 1FADD:Unknown
   1FADF:Common 1FAEA:Unknown 1FAF0:Common 1FAF9:Unknown 1FB00:Common 1FB93:Unknown 1FB94:Common
   1FBFA:Unknown 20000:Han 2A6E0:Unknown 2A700:Han 2B73A:Unknown 2B740:Han 2B81E:Unknown 2B820:Han
   2CEA2:Unknown 2CEB0:Han 2EBE1:Unknown 2EBF0:Han 2EE5E:Unknown 2F800:Han 2FA1E:Unknown 30000:Han
   3134B:Unknown 31350:Han 323B0:Unknown E0001:Common E0002:Unknown E0020:Common E0080:Unknown
   E0100:Inherited E01F0:Unknown"

/-- The long name of a character's script. -/
def of (c : Char) : String := (table.get? c).getD "Unknown"

end BundleHost.Unicode.Script
