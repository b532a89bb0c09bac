/-!
# Character names

`charOfName?` finds a character by its Unicode name (Unicode 14.0.0), in either case, as
`\N{EM DASH}` names one. Hangul syllables, unified ideographs, the families of `numberedNames` and
Braille patterns are named by rule; other names are listed in `nameData` and aliases in
`aliasData`. The list is in code-point order, each entry written against the one before: the
distance between code points (as `U+10000` plus it, left out when one), the length of the prefix
shared with the previous name (`prefixCounters`), and the rest, with `U+0180 + i` for the
`i`-th piece of `nameWords`.
-/

namespace PipeQuery.Text

def namePart0 : String :=
  "𐀠aۍaϛaQݸˎa֛a΂a״aʨbؐaӵaٌa˅a؈a̼aѮ-՝aВaۈa͸gַgݙhѨgЊhҴgګhϔgΥgքa̷aڂaԅȑaπaЯȑaتa̾aӮ̑vBvCvDvEvFvGvHvIvJvKvLvMvNvOvPvQvRvSvTvUvVvWvXvYvZaӳۓaقaيۓa̲ƄaԤaЭaӯAtBtCtDtEtFtGtHtItJtKtLtMtNtOtPtQtRtStTtUtVtWtXtYtZaӳ͔aޑaي͔aܪ𐀢aNO-˾ȖaҥϛaCλȑaPבDȑaCކȑaYENȑāƚaپȑaͯa͇YىȑaFEMIք ORDҌǄaӻΊʰȃa֓ȑaۇ ѮaREGI۟طȑaԮaDEGعȑa؇-՞a۳ݙnѨaʇaMI͋ȑaPIL͋WȑaՔa̙a۳ַaMASCUԏORDҌǄaَΊʰȃaVULЙ ЏּuмqܢaҥتaӮ̐ʀЬ$ʆ$̲$ܪ$ͯ$ٕwEvCȾvΙЬ$ʆ$̲$ͯvѯЬ$ʆ$̲$ͯvϋvNȻܪnǐЬ$ʆ$̲$ܪ$ͯaժȑaӮ̓۩nǑЬ$ʆ$̲$ͯvYȼvTѥgںڌP StʀЬ!ʆ!̲!ܪ!ͯ!ٕuEtCȾtΙЬ!ʆ!̲!ͯtѯЬ!ʆ!̲!ͯtϋtNȻܪlǐЬ!ʆ!̲!ܪ!ͯaͿȑaӯOɚlǑЬ!ʆ!̲!ͯtYȼtTѥtYɄg̐ʀԮgںʀԮg̐ʁgںʁg̐ʀ֧gںʀ֧g̐CȼgںCȼg̐CȿgںCȿg̐CɇgںCɇg̐CȽgںCȽg̐DȽgڼȽg̐Dɚgڼɚg̎ǎԮgڶǎԮg̎ǎ̀gڶǎ̀g̒ɇgڽɇg̎ǎ֧gڶǎ֧g̒ȽgڽȽg̐GȿgںGȿg̐GȻ̀gںGȻ̀g̐GɇgںGɇg̐GȾgںGȾg̐HȿgںHȿg̐HɚgںHɚg̐ѯܪgںѯܪg̐ѯԮgںѯԮg̐ѯ̀gںѯ̀g̐ѯ֧gںѯ֧g̐IɇgںΆIg̏ԊIJgڷԊIJg̐JȿgںJȿg̐KȾgںKȾuRAg̐LȼgںLȼg̐LȾgںLȾg̐LȽgںLȽg̐ӡՔgںӡՔg̐LɚgںLɚg̐NȼgںNȼg̐NȾgںNȾg̐NȽgںNȽvؖΟ̉Aؐg̐κgںκg̓ԮgھԮg̓̀gھ̀g̓ΊʆgھΊʆg̏ԊOEgڷԊOEg̐RȼgںRȼg̐RȾgںRȾg̐RȽgںRȽg̐Sȼgڿȼg̐Sȿgڿȿg̐SȾgڿȾg̐SȽgڿȽg̐TȾgۀȾg̐TȽgۀȽg̐Tɚgۀɚg̔ܪgہܪg̔ԮgہԮg̔̀gہ̀gٕ̔gہٕg̔ΊʆgہΊʆg֧̔gہ֧g̐WȿgںWȿg̐YȿgںYȿg̐YɄvZȼgںZȼg̐ZɇgںZɇg̐ZȽgںZȽtԜStBɚg̐BɊ$ܽgںBȻܽg̐ܶګgںܶګgׂ̐OvCɊgںCɊg̑FRICʩDvDɊ$ܽgڼȻܽtݓͨg̐كEvٸv׃vFɊgںFɊg̐GɊvЕgںHVg̐ҨwɚvKɊgںKɊtӡ˙uAMBDAɚg̐ݓMvNɎџgںNȻԜيԀg̐Oɒ$ѥgھѥg̐OIgںOIg̐PɊgںPɊgԆYRg̐ܵȵgںܵȵg̐υgԆكυ ԟgۀɕg̐TɊgۀɊg̐TɘnǑѥgہѥg̐ނvVɊvYɊgںYɊg̐ZɚgںZɚg̐Ϣy" ++
  " فDgںϢ فDwɛgԆݙɚg̐ܶϹgںܶϹgԆҥХɚnWYNNnͩʒnLA܏ʒnALVEOLARƣѸnRύg̐DZȽwȻںZȽgڼZȽg̐LJwȻںJgںLJg̐NJwȻںJgںNJg̑ȽgڻȽg̐IȽgںIȽg̖̓gھ̖g̖̔gہ̖g̔ͯƏgہͯƏg̔ͯƆgہͯƆg̔ͯƅ̖gہͯƅ̖g̔ͯƉgہͯƉtݓEg̑ɄƏgڻɄƏg̑ɇƏgڻɇƏg̑ΙԮgڻΙԮg̐GɚgںGɚg̐GȽgںGȽg̐KȽgںKȽg֧̓gھ֧g֧̓Əgھ֧Əg̐ϢȽgںϢȽtJȽg̐DZwȻںZgڼZg̐GȼgںGȼg̐HWʎvWYNNvNȻЬgںNȻЬg̐ʀٕƆgںʀٕƆg̑EȼgڻEȼg̓۩Ɔgھ۩Ɔg̐ʀ΋gںʀ΋g̐ʀҦgںʀҦg̎ǎ΋gڶǎ΋g̎ǎҦgڶǎҦg̐ѯ΋gںѯ΋g̐ѯҦgںѯҦg̓΋gھ΋g̓ҦgھҦg̐RȻ΋gںRȻ΋g̐RȻҦgںRȻҦg̔΋gہ΋g̔ҦgہҦg̐SȻ̼ƜgڿȻ̼Ɯg̐TȻ̼ƜgۀȻ̼Ɯg̐YOGHgںYOGHg̐HȽgںHȽg̐NȻԜيԀgڼɁg̐OUgںOUg̐ZɊgںZɊg̑ɇgڻɇg̒ȾgڽȾg̓ͯƏgھͯƏg̓ܪƏgھܪƏg̓΄gھ΄g̓΄Əgھ΄Əg̐޾Ԯgں޾ԮtLɁtNɁtTɁtΆJuBƪtQPƪg̑ɚvCɚgںCɚg̐ӡ˙vTɅgڿȻ۶܀tZȻ۶܀g̐ХgںХg̐BɚvUƚvݓVvEɚgڽɚg̐JɚgںJɚg̐ڷQɊ ܀gںQɊ ܀g̐RɚgںRɚg̐YɚgںYɚtݓAtʣtݓʣtBɊtׂOtCɁtDɛ!џtكEtٸyɊt׃tك׃.Ɋt̶ك׃tΆJɚtGɊtٻGgԇGgںЕtرS ѥtݓHtHɊuκɊtIɚtҨgԇIgںLɒ!ˤ!ـuϢtݓM#ɐtMɊtNɎџ!ـgԇNgں˛OgԇOEgں̶ֲt׻tݓR#ɐ+џtRɐ!܀!ϷџtكRȻϷџgԇR#ҥRgڿɊtυtΆJɚƅџtSQUAT كυtυɁtݓTuɘtUƚtނtVɊtݓV!W!YgԇYgںZɘuɁtϢwɁgԆХnPфYNGEʑޛFRI̘ҴnҥХnۦEṬCnBIӢIʒgԇBgں̶׃gԇGɊ#HgںJɀtݓKgԇLgںQɊgԆХɚnكХɚgڼZƪuϢƪuZƪɁtTSƪuυƪuCƪɁtFκƪtLSƪuZƪgԆBIӢѰ׳͗SҴpͩʑ׳͗SҴgںݓHȻϷџ@ƅ܀aբڷHxɊwJwRwݓR&Ɋw̏ҥRwWwYqؙqΊؙqݓ̼qAؐqك̼qً ٓqӴٓqХqكХqӲƘqىƘqUPƘq΍Ƙq̲Ƅa̖aբޑqԮqʇqЭqԣޑuԮuЭuʇq̷݆qн̷݆q̜D ً ٓyӴٓqݽqΑq؈q՞àa΄aٕa֧aڷܪaΊʇaբمܦџq͌ƄqڷЕwLwSwXwكХqϟіܷqіܷqՑܷqԣܷqϟԣܷqYINƨ׫Ҙܸrʮƨ׫ҘܸqVOICҗqUNAېˈDqΊAؐqԣ΍ƘuUPƘuӲƘuىƘwNGqՓЭxΊЭ&ʇqԣܪqد̷qˠіܵqη іܵqˠԣܵqη ԣܵqڍLFqׂڍLFqԣӲƖa̻Эkʇk̲Ƅk" ++
  "ܪkԮkםk̀k΄kͯkџƁkٕkΊʇk̖kޑƁkΊޑƁrЭk̍kҦkݓ̼Ɓk̼Ɓkك̼Ɓk̼ƂىkЭƜkʇƜkӲȡƜkىȡƜkӳʰƁkѥkӴٓƜkݽƜkΑƜk؈Ɯk՞ƜkןˆLҷџƜkـƜk΅kͯƜkٓƜk̼Ɯk̙k֧kޑƜk̂ƜkҥΊARCHƜk̖Ɯk̲ƄƜk̀ƜkҦƜkܪƜkԮƜkԤkΊԤkܪ לkڗȚkԛȚkژۈ לkԜۈ לkً ٓƜkҥ̂ƜkۑƜlEAGݯƜkXƁkޏܪkΊםkЬ ܸkʆ ܸkа׶qKOٛISqͳ ܻqߑk̂ƁkπƜkΊޑƜkӳʰƜk֔ܪƁkHOMOܓTICƁkʡƁkӶƖƜkޅƜkЫEME ҾkىƘƁkӴٕkFERMˆkXƜkӲƘƜkىƘƜ!ʭȶƘƜqнٕk΄ ىk˅ƜkΊٓƜkߞƁkΊ̀ƜwrԮxƜrܪrҦrّƜkӯA%E%I%O%U%C%D%H%M%R%T%V%Xaа̐HϊgںHϊg̐ʽٲgںʽٲg֝ʓgԥ֝ʓg̐PAMPHYLѱDIЕgںPAMPHYLѱDIЕ𐀃gߑgڷكԪmΈԪmكΈԪgتg̐YOT𐀅gܻgͳ ܻg̐ʣɜgA֌TάIAg̐ξɜwTAɜvҨɜ𐀂vֳɜ𐀂vނɜvֲɜgںҨȻͳƅܻg̐ʣv˨vЕvͨvξvߚvϊvܘvҨvӇvөvMUvNUvXIvֳvPIvم𐀂vڟv܅vނv׻v̧v؜vֲvҨȻͳvނȻͳgںʣɜtξɜuTAɜtҨɜtނȻͳƅܻtʣt˨tЕtͨtξtߚtϊtܘtҨtӇtөtMUtNUtXItֳtPItمtϱڟtڟt܅tނt׻ţt؜tֲtҨȻͳtނȻͳtֳɜtނɜtֲɜg̎ǇIȞg˨ȞgܙgނɊȞtʆƅџȞtͯƅџȞg׻ȞhIȞgKAIȞgԆʽӞgںʽӞgԆۣGMAgںۣGMAgԆDIЕgڼIЕgԆӞgںӞgԆٲgںٲa͇ܦ̐ڍIhںڍIh̐FEIhںFEIh̐ӔhںӔh̐ѠIhںѠIh̐ИhںИh̐ړhںړh̐DEIhڼEIaаӇȞgمȞgԪgԆYOTg̏ܙgLUNˉξȞgكLUNˉξȞg̐ڕgںڕg̏ԪoԆٳgںٳgمɚȞg̏كԪoΈԪoكΈԪa͘ ̐IΙЬzOyDJEyGJEyݬEyDZEyBYβRUSSIAN-ݬyYIyJEyLJEy֊yTڍyKJEyѯЬyژUyDߜyAyBEyVEyПyDEyIEyߜzEyIyژIyKAyELzMzNyOyPEyERzSyTEyUyEFyHAy݌y̡yڇ!̞yхy߉yۇȑyEyYUzAjڻwBEwVEwПwDEwIEwߜxEwIwژIwKAwELxMxNwOwPEwERxSwTEwUwEFwHAw݌w̡wڇy̞wхw߉wۇȑwEwYUxAwIΙЬxOwDJEwGJEwݬEwDZEwBYβRUSSIAN-ݬwYIwJEwLJEw֊wTڍwKJEwѯЬwژUwDߜjֲ̐jںֲj̐YATjںYATj̐ҩEjںҩEj̐ԖjںԖj̐ҩԖjںҩԖj̐˭jں˭j̐ҩ˭jںҩ˭j̐KSIjںKSIj̐؜jں؜j̐FұjںFұj̐Iߝ݋jںIߝ݋j̐IߝTSʀΊЭjںIߝT" ++
  "SʀΊЭj̐UKjںUKj̐١ ֲjں١ ֲjֲ̐ȻTITLOjںֲȻTITLOj̐OTjںOTj̐ӞjںӞiȦ٫a̻͘ȨTLOtPʔTʜZˍt͠ PNϐˆt؝ PNϐˆuOKRYܨtѫȦ٫t՛ȑa͘ ̐ژIɛjںژIɛj̐ځۇȑjںځۇȑj̒RȻܧjڽRȻܧj̐GHΙUPݒjںGHΙUPݒj̐ПɚjںПɚj̐GHΙՕjںGHΙՕj̐ZHΚjںZHΚj̐ZΚjںZΚj̎ǏɃjڶǏɃj̐KʀޒjںKʀޒj̎ǏɚjڶǏɚj̐B˃KIRǇjںB˃KIRǇj̒NɃjڽNɃj̏ԊδПjڷԊδПj̐PΙՕjںPΙՕj̐ʅHAjںʅHAj̒SɃjڽSɃj̐TΚjۀΚj̐ۨ Ujںۨ Uj̐ۨ Uɚjںۨ Uɚj̐HAɃjںHAɃj̏ԊTE ݌jڷԊTE ݌j̐CHΚjںCHΚj̐CHΙޒjںCHΙޒj̐Sђjڿђj̐ʅ̡jںʅ̡j̐ʅCHΚjںʅCHΚjԆןOCѝj̐ZHῚjںZHῚj̎ǏɊjڶǏɊj̒LɛjڽLɛj̒NɊjڽNɊj̒NɛjڽNɛj̐ӐK˄ѱ̡jںӐK˄ѱ̡j̒MɛjڽMɛwןOCѝj̐ʁjںʁj̑ɄjڻɄj̏ԊA IEjڷԊA IEj̐IῚjںIῚj̐ٸjںٸj̐ٸɄjںٸɄj̐ߜɄjںߜɄj̐ZEɄjںZEɄj̐ʅDZEjںʅDZEj̐ѯԮjںѯԮj̐IɄjںIɄj̓ͯjھͯj̐˛Ojں˛Oj̐˛OɄjں˛OɄj̒ɄjڽɄj̔ԮjہԮj̔ͯjہͯj̔ΊʆjہΊʆj̡̐Ʉjں̡Ʉj̐GHΚjںGHΚj̐߉Ʉjں߉Ʉj̐ПɚƅџjںПɚƅџj̐HAɊjںHAɊj̐HAɚjںHAɚj̐ӝDEjںӝDEj̐ӝDJEjںӝDJEj̐ӝZJEjںӝZJEj̐ӝDZJEjںӝDZJEj̐ӝLJEjںӝLJEj̐ӝ֊jںӝ֊j̐ӝSJEjںӝSJEj̐ӝTJEjںӝTJEj̐كZEjںكZEj̒LɊjڽLɊj̐ԉjںԉj̐RHAjںRHAj̐YAEjںYAEj̐QAjںQAj̐WEjںWEj̑LϒǇjڻLϒǇj̒ӡՕjڽӡՕj̒NȻՕjڽNȻՕj̐PΚjںPΚj̐SђɃjڿђɃj̒NɎџjڽNɎџj̐DZߜjڼZߜj̐D̡jڼ̡j̒LɃjڽLɃ𐀂aʿ̑YByBENyGIMyDAyECHyZAyEHzTyTOyߜyINIyLIWNyXEHyCAyKENyHOyJAyНDyCяyՌyYIy֖yڇyVOy̞yPEHyJяyRAySEHyVEWyTIWNyغyCOyYIWNyPIWRyKEHyOHyϩ𐀃jբӴٓjAؐjEM׺ڪǔjϛj̼jتjʃǔjںݓAYBwAYBwBENwGIMwDAwECHwZAwEHxTwTOwߜwINIwLIWNwXEHwCAwKENwHOwJAwНDwCяwՌwYIw֖wڇwVOw̞wPEHwJяwRAwSEHwVEWwTIWNwغwCOwYIWNwPIWRwKEHwOHwϩpԊECH YIWNpԆYIɚjВjѮ𐀃aىɥʿE܏ևYȑaӲɥʿ" ++
  "E܏ևYȑaʿDرȑ𐀂aHEBREWƄ ETNAѩoSEGOLpлSHάToZAQEF QA܂uGADOLoTIPEHAoREVIAoZARQAoPASѩoYETIVoTEVIRoGEؿuǙQDAMrڇYIMoQARNEY ץoTίڇ GEDOLAoPAZERoATNAHƼFUKHoMUNAHpAHAPAKHpERӐu KEFݮoDARGAoQADMAoTίڇ QETʪoYERAH BδYOMOoOLEoILUYoDEHIoZINORhԺMASORAƢh؊ ڍVAnHˆFȏGOLtPA۾tQʦTSoҪQnTڅEnSEGOLnPA۾nQʦTSnHOӧsƼڅƵVAVnQÜSn͛ǱMAPIQnՏEGhءǓآh؊ȄFEhء P˂Qh؊ ڔƬoINƬhء SOFǵSUQhԺހ΃mԥ΃hء ֟ƼFUӐh؊ QʦTS QA܂𐀉hԆʗoBEToРoDʖToHEoVAVoߗoHEToTEToߎoϱӃoӃoLAՁoϱՋoՋoϱ֟o֟oٱo˔oϱPEoPEoϱT٬IoT٬IoQOFoؿoڔoTAV𐀅hߎ ݄hԊYIDͼ ΊVAVyVAV ߎyΊߎhء GEؿwڇYIM𐀌aʻ ֛hڠSʪHhЅ֓EǔERhڠSAFHAoMVATh֘ǔƁg-ҎѳCUBEȇOTnЎȇOTgȄYg-ҎѳPτM҇Eȑr܎ȑbFНNIȑaʻ ̼hDˉڄhPOEܦލSEȑhڠMISRAmSʟʠѧ ʕE W˄ʠMmʕE ˄ʠMmRAHMATUԘH ʕEoDI ʠѧ ANHUmTAKHʟUShڷі۾sԊʛӨ߃sߔnFˋn͞nӋhڂhԆԹKhιǔh݇ƭǔhتgǏSHMҪ ߃oрoʛԯƁyсoީȻсoʛрƜoYΤсoʗoˡo܊rpяoҺoжoӑo͜oܒoغoߔoڀoڎpADo͙o۾oߓoʍoОoKEHΤݜzܠƜoϦYΤҥV%ݜ%ܡh܄LhԆϩoآoӃoӧoՇo֍oяoީoʘo߃hϧh͞܂hӋ܂hFˋh͞hӋhڇͤiݭNhԯHƁhсnˣh۬ʗhҥ͞hԺ֍ GHU֋hZWʺKAYhޠۃƁsҥۃƁs΅hك͞hFˊʀݛhިрƜg-Ҏѳ͸tַtݙuѨtЊuҴtګuϔtΥtքg ״hͥڄgȦS ڄhϹǻ۝hԆΆˡwآo۳ʗoʗȸSLAsȻިс:ˣoірy ʗzީgǑсoір ߃oT܉sEHo˟HoTΤٓxܡ ΓoPEHoTEяoBEяoйсxݛ ގƁoN߃oD߃oйܡoTCяtEHoD͜pAӡٓx΅)ƅڷ۾qлpDAлpULpAӡܡ ΓxЊƮoRغpΤۃxٓx΅xۃƜx΅ƇxݜoJEHoRΤЊƮoڀɈƇyܠƜ?ƅܡpADȻݝxܡo۾ȻܡoʍȻܡoΆϩoϩɆ MטDƜ#ˣoVEHoFΤܠƜoPEяoآɇxܡoKEяo۶ӃoӃȻٓx΄oNGoӃȻܠƜoGAFrȻٓoւEHoGAFȻݝpUEHpAFȻܡoӨۃx΄xܡ.ˣo֍ɈtGHU֋oR֍o֍Ȼٓyܡoя DOACH˃MEEoTCяɇoHΤ߃ƁsGOALwȻсo܊ GOALoީȻٓ" ++
  "oӗOEoOEoUoYUoӗYUoީȻݜoVEoϦ߃o߃ɛxۃoީɇoEoYΤܠƜs˙عyȻсhВgǍEhڷіԊ٬ȻӨʘ#آȻӨʘsՉsӧ ʗsҺsܠsڀhθ˒Hh۞RUB EL HIZBhڷі٢ߙsUPيRΞʮݮR ߙsΆцǣӑsՊnԣڀnіԯnީn߃nі߃s֍h؅ǣSAJDAHhγ̜ ԣۥuіۥh٢іۥȻϯΟ̜hڷԣՇhԆDAӡҥVoRΤҥVaϝ ߙ$ַ$ݙ%Ѩ$Њ%Ҵ$ګ%ϔ$Υ$քaʻǌڎɈo͙ɈoОɈhڠSҎHI ʨt؏؎ ՌhԆHΤҥVaۻ θצhSUPRAԐВjBԐВjPRAԐ̷jBԐ̷hѢ̷h̸ӲuىhSUPRAԐ̸ӲjBԐ̸ىh̀݀CܱhфKLEʩOˢUSqՏOˢUSqAۡIS͗𐀂hʃǔhԆʔPHo۳ʔPHo˩oGʦLt ЙڛNIo͜ˊoΆ͜ˊ RҬoHEoީoߔoёoܐs ЙڛNIoYUDHs HEoӆoLʦDHoMIMo֟oSEMKˊoϱSEMKˊoEoPEoكPEo٭oQAPHoRҬoڔo܆o׳SѱBёwGHʦLwDлˊhPTжAƁoˣo·hZQA׺Ɓoˣo·hR˜AƁnˣhΈZLʦ ѡuʮݮRhH˜AƁnˣm-ESASA ·hESASAƁnˣhRWAHAhFEMIքƬhQއSH˒hRUKKAӐhݚގƮzˣhܡsˣh֥ԎƁuˣhMUSICh˙REKH𐀃hԆSOGDѱZHʍwӐPHwFEaʻǌBΤܠ ѡLYƜx΅ƅܡxܠǽރƜĸƅݜxݝƇxҥۃƜxۃoйݜxܠǽރƜoDAӡݞƜƅڷ۾xҥۃƜoغɚoڀȻЊƮoʍȻݜxܠǽΓƁxݞƁoFΤݝxܠǽރƜoKEяɇzܡ;؋ރƜoՇɇ$ˣo֍Ȼݝyڷ۾&VoӨ˙oRΤݞƁxсoڀȻݞƁoйڹƜ|ƅݛoڀȻڹƅݛoRΤڹƅݛoйڹƁoʛϝȵƁĵѨƁoϦYΤϝȵƁĺѨƁĹЊƜoީȻϝȵƁĴѨƁo߃ƚREΙϝȵƁĻѨƁoйϝ ЊƜoڀȻϝ ЊƁyҥVoӃȻݜaܑʪǌеoڇޘo֍UoRAAoBAAoԉޘoӂFUoʜFUoVAAVUoՇUoFAAFUoDеLUoTеoLAAMUoGAAFUpNAޘoڀUoDAޘoZAޘoTAޘoYAAoPAޘoJAޘo̞ޘoTۼoHеoKеoTеLUoZAAoڎUpAADHUoDAADHUoTOoZOoʍUoОUoQAAFUoޤVUhABAϮiABAAϮhIBIϮhEE˟ϮhUBUϮhOO˹ϮhEBEϮiYBEYϮhOBOϮiABOAϮhSݭNhԆNAA𐀏aNKO ͸kַkݙlѨkЊlҴkګlϔkΥkքdǍlEElIlElUlOOml͚˜I֋lNlBAlPAlTAlJAl̞lDAlRAmRAlSAlGBAlFAlKAlLAlNA WOLOSOlMAl֠mAlHAlWAlYAl֠ WOLOSOlJONA JAq̞qRAe̻ژіܵuԣܵu٘ܵoԜͫCηҘܵtіܵtԣܵt٘ܵoNASʜZˎoΊ΄eіܶAؐeԣܶAؐeۺOOƨNNENlGBAKU٧ENe̼eϛeLAJA֠ӫ𐀃eD" ++
  "ʴ˒ӫfOROMEȑeTAԶȑaSAԹI܂ǌʔFr˰rGAԶrDʔTrIYrBAArߘrITrTITrYUTrӂFrӢATrMIMr֟rSIվATrINrFIr݋ADIYrQUFrRҬrڇNrۼFkԺINr-ʔFpOCCLUڨp͛kբEױܓܦYUTkԺEױܓܦYUTkޠԜEvEvיԜAAvԜAAvAAvיԜAvԜAvAkբژAkޠژAvԜUvUkբIkޠԜIvIvOvSݭNkԺNEQݪA𐀃kء NEQݪAwAFSAAQxNGEDwBAUwATMAAUwڑYYAʔAkʃǔkء MβDѳQI݋wZIQAAwQI݋wZAEFwݑUwARӂNUwSOF M˃FAATwA֋AU𐀂aMAմICǌлQApABqGqDqHpUڍ֋pAZpITpATTqKSArqLqMqNqSpINpAPqSZqQqRqSHqTpDUڍ֋pKADpʍiAFFRICˎiVOCʜZˎiКˎ𐀃iء𐀂aۻǌMAL˒ӧ վyJAy֠yݎy֋!NAy˫yRAyԘ!LAyۖ𐀆aʻǌʛːFˋ+ܼيFˋyيՒșyӳՒșyːӋ+˻يӋ+١ ΄+ي١Ƭ+ӳ١Ƭ+١ ΅y΄yːܼيFˋƇyيՒșƇyː˻يӋƇ+ܼيFˋƍٓyيՒșƍٓyː˻يӋƍٓ+يр+ӳрh܄ӡיۦݩ р(ީuݝhԆܚN ߃hB˂ԏ١Ƭhد١ƬhԆ֍ȻҥۃoйҥۃƜo۾ɈxܠƜoKEHΤݞƜhޏ܀𐀂hPבDǔƁiIAۦEǔƁ𐀇hڷі޻AL-JUZnԣ޻ҬMAAMxMAʔwTASюhԯ ޤJIBh۳ʗ MOӐۖShΉD ԯhнԯǴԯhԆBΤۃƜxсoһݜo۾ȻݜoϩɈƅܡoآɈoӨΉƚoՇȻܡoYΤݝƅс[΄oRΤԟoީɆɠoROHҗYA ߃oԣʗoDAӡܠƜo٬ȻܠƜoGAFȻҥ۩oۨ ީoߔȻҥVƁoʍȻܠƜoӃɈoآɈƅNOƮoBΤڷՇƁoPΤڷՇƁoTΤڷ܉ƁoRΤڷ֍ƁoYΤݝƅڷ֍ƁoAFRICʩϩwآw֍oPΤۃoTΤۃpTΤۃpCHΤۃoKEHΤۃoОȻܡoAFRICʩآȻܡoһܡ:ˣoӨڹƁoЩFhڷϦ߃nіϦ߃s߃ƚREΙݝs޻SAHsߓhӭ١ ΄xˣhSݭNƜhӬƢƜn١Ƭ ҝƢƜhڷԣީnі޻AR-RUBs٬sʍsآs֍ȻӋnԣ֍ȻӋnі޻ˊ-ܒˋyS-SAJDAyN-NISFxSAKTAxQIFxWAQFAsЅ֓EǔERsڠSAFHAhͻPU܈θ˒Hhݓ͞Ɯh͓ Fˋn͞nӋnϧn͞܂nӋ܂hָܶ΄mݜmԟƁmָ΅mݝmԟƜhׂϧm͞܂mӋ܂hڷіީhFˊʀٓs΄hӋɈhӲƘƁhىƘƁhӲƘƜhىƘƜhΊىƘƁ:ɆhىƘƁɆh͞ɆhԺڞ֍ GHU֋aDEVʪЙIȒҥ̍q̍qʸqޗlԆژAsAtAsItIsUtUsޚ!Lš EsژEsEsAIš OsژOsOsAUsKAtHAsGAtHAsվsCAtHAsJAtHAs֠sݎuHAsͤuHAs֋sTAtHAsDAtHAsNAt֋sPAtHAsBAtHAsMAsYAsRAt" ++
  "RAsLAtLAuLAsVAsڇtSAtAsHAlޠOExOElڢqˑlޡwIxIwUxUwޚ(Rw̌ EwژEwEwAIw̌ OwژOwOwAUlڣlޠPٗwAWlOMlۦχȒݫxANݫlЭlʇlޠ̌ ԜEwUExUElԆQAsKђsGђsZAsDDͭsRHAsFAsYYAsޚR!LLlޠޙL(Ll͟mאl͸rַrݙsѨrЊsҴrګsϔrΥrքlʄlڠіSPACҗƬlԆ̌ AsOEtOEsAWsUEtUEsԹWARI ͤsߛsыYAsGGAsJJAsХsDͤsBBAaBκʝANJIiڠ̍nʸnޗ𐀂hǍqApIqIpUqUpޚxL𐀃pEpAI𐀃pOpAUpKAqHApGAqHApվpCAqHApJAqHAp֠pݎrHApͤrHAp֋pTAqHApDAqHApNA𐀂pPAqHApBAqHApMApYApRA𐀂pLA𐀄pڇqSAqApHA𐀃iڢnˑiޡtIuItUuUtޚ$R𐀃tEtAI𐀃tOtAUiڣiԆKтAȟ𐀉iAU Ԃ𐀅iԆ٤qHA𐀂pYYApޚRxLLiޠޙL$L𐀃i͸oַoݙpѨoЊpҴoګpϔoΥoքiԆRʀՓͰxԥͰi٨ǔnȑiCކ ֝Aܾǯ#ݙ$Ѩ#Њ#ָLχ THʩܓƨNO՜AܾrDENO՜Aܾ ڭiISڌiGAմǔiԆތʸiʄiSʭHIǔ𐀃aGURMUKHIȒADAK BҎIoBҎIoޗ𐀂iǍrAqIrIqUrU𐀅qEEqAI𐀃qOOqAUqKArHAqGArHAqվqCArHAqJArHAq֠qݎsHAqͤsHAq֋qTArHAqDArHAqNA𐀂qPArHAqBArHAqMAqYAqRA𐀂qLArLA𐀂qVAqڇ𐀂rAqHA𐀃jڢ𐀂jޡuIvIuUvU𐀅uEEuAI𐀃uOOuAUjڣ𐀄oݪAT𐀈jԆKђqGђqZAq٤𐀂qFA𐀈j͸pַpݙqѨpЊqҴpګqϔpΥpքjTIPPIjAͤKjҪjURAjEK ONKARjڠYAK˃jʄ𐀋cJARˌȒ̍oʸoޗ𐀂iǍrAqIrIqUrUqޚyLjޟ̌ E𐀂jԆEqAIjޟ̌ O𐀂jԆOqAUqKArHAqGArHAqվqCArHAqJArHAq֠qݎsHAqͤsHAq֋qTArHAqDArHAqNA𐀂qPArHAqBArHAqMAqYAqRA𐀂qLArLA𐀂qVAqڇrSArAqHA𐀃jڢoˑjޡuIvIuUvUuޚ%Rǔ E𐀂uEuAIǔ O𐀂uOuAUjڣ𐀃jOM𐀐jԆޚRyLLjޠޙL%L𐀃j͸pַpݙqѨpЊqҴpګqϔpΥpքjʄj٨ȑ𐀈jԆߛjڠSݭNpHAͤoԯHoܞ-D׍֗Ɓo̮֗Ɓoݙ-̮֗Ɓ𐀂aORҶȒ̍lʸlޗ𐀂fǍoAnIoInUoUnޚvL𐀃nEnAI𐀃nOnAUnKAoHAnGAoHAnվnCAoHAnJAoHAn֠nݎpHAnͤpHAn֋nTAoHAnDAoHAnNA𐀂nPAoHAnBAoHAnMAnYAnRA𐀂nLAoLA𐀂nVAnڇoSAoAnHA𐀃gڢ" ++
  "lˑgޡrIsIrUsUrޚ!R𐀃rErAI𐀃rOrAUgڣ𐀈lםgʋԂhU Ԃ𐀅gԆ٤oHA𐀂nYYAnޚRvLLgޠޙL!L𐀃g͸mַmݙnѨmЊnҴmګnϔmΥmքgISڌgԆWAgЏּtмpܢpָڮtΨpܟڮS𐀋aTA՚ ڡlޗ𐀂fǍoAnIoInUoU𐀄nEoEnAI𐀂nOoOnAUnKA𐀄nվnCA𐀂nJA𐀂n֠nݎ𐀄n֋nTA𐀄nNAo֋nPA𐀄nMAnYAnRAoRAnLAoLApLAnVAnڇoSAoAnHA𐀅gޡrIsIrUsU𐀄rEsErAI𐀂rOsOrAUgڣ𐀃gOM𐀇gAU Ԃ𐀏g͸mַmݙnѨmЊnҴmګnϔmΥmքg֜nֻqȦgDAYȑgգTHȑgYΛȑgDE˰ȑgCطITȑgASƁȑg٨ȑg֛𐀆bELUGUȒ̻̍Ɓm̍mʸmޗm̻ʸƁgǍpAoIpIoUpUoޚwL𐀂oEpEoAI𐀂oOpOoAUoKApHAoGApHAoվoCApHAoJApHAo֠oݎqHAoͤqHAo֋oTApHAoDApHAoNA𐀂oPApHAoBApHAoMAoYAoRApRAoLApLAqLAoVAoڇpSApAoHA𐀃hڢmˑhޡsItIsUtUsޚ#R𐀂sEtEsAI𐀂sOtOsAUhڣ𐀈hԂhʋԂ𐀂hԆ݋oΘoR٤𐀃oNAKAʺ PֱU𐀃oޚRwLLhޠޙL#L𐀃h͸nַnݙoѨnЊoҴnګoϔnΥnք𐀈hڠڜhЏ͸ƶؓwַƶؓwݙƶؓxѨƶؓwַƵϕؓwݙƵϕؓxѨƵϕؓhڠTUUMUaKA֋DAȒSPACҘ̍n̍nʸnޗnڜhǍqApIqIpUqUpޚxL𐀂pEqEpAI𐀂pOqOpAUpKAqHApGAqHApվpCAqHApJAqHAp֠pݎrHApͤrHAp֋pTAqHApDAqHApNA𐀂pPAqHApBAqHApMApYApRAqRApLAqLA𐀂pVApڇqSAqApHA𐀃iڢnˑiޡtIuItUuUtޚ$R𐀂tEuEtAI𐀂tOuOtAUiڣ𐀈iԂiʋԂ𐀇iԆNAKAʺ PֱUpFA𐀂pޚRxLLiޠޙL$L𐀃i͸oַoݙpѨoЊpҴoګpϔoΥoք𐀂iڠJ҃nݿA𐀎aMAL˒ӧȒ̻ʸƁp̍pʸpޗkԆތʸrAsArIsIrUsUrޚzL𐀂rEsErAI𐀂rOsOrAUrKAsHArGAsHArվrCAsHArJAsHAr֠rݎtHArͤtHAr֋rTAsHArDAsHArNAs֋rPAsHArBAsHArMArYArRAsRArLAsLAtLArVArڇsSAsArHArTݎkڠސ ޖp̱ޖpˑkޡvIwIvUwUvޚ&R𐀂vEwEvAI𐀂vOwOvAUkڣkԆ΃ȅPHkڠץ𐀅kԆCH҇U MyYyLLLkAU ԂkЏַǯ-ѫ-ʭ-ګTIϋxF׊IϋtܟΥIϋStָݗyλHtܟݗStָϫkԆʽIIrޚRzLLkޠޙL&L𐀃k͸qַqݙrѨqЊrҴqګrϔqΥqքk֜rֻuȦkЏּxмtܢtָڮxΨtܟڮSkDˈǔkԆCH҇" ++
  "U NNzyRRyLzLyK𐀂aSINHʔȒ̍nʸYAnޗYA𐀂iԆ˓q˓qE߀rE߀pI߀qI߀pU߀qU߀pIRU߀sU߀qLU߀sU߀pE߀qE߀pAI߀pO߀qO߀pAU߀𐀄pʢK˓pԱK˓pʢG˓pԱG˓pKʵJAǛASIKY˒pٵG˓pʢC˓pԱC˓pʢJ˓pԱJ˓pۼLUJAǛASIKY˒xٳߐGAǛAKSIKY˒pٵJ˓pʢTT˓pԱTT˓pʢDD˓pԱDD˓qވN˓pٵDD˓pʢT˓pԱT˓pʢD˓pԱD˓pDʵJA N˓𐀂pٵD˓pʢP˓pԱP˓pʢB˓pԱB˓r߀pAԼ B˓pY˓pR˓𐀂pDʵJA L˓𐀃pV˓pۼLUJA S˓pMވS˓pDʵJA S˓pH˓pMވL˓pF˓𐀄iڠAL-ӦUNA𐀅iޠAΫɫtӍTI AEDAɫt͵AEDAɫtӍTI ISɫt͵ISɫtӍTIǵAɫ𐀂t͵PAAɫ𐀂tGAEݎɫtKOԾVAt͵KOԾVAtKOԾƨKAyVA е AΫɫ(͵AΫɫ(GA߁tGA߁𐀇iԔH ͸tַtݙuѨtЊuҴtګuϔtΥtք𐀃iޠ͵GAEݎɫ!߁iء KUND͜Ҷ𐀍aTHʋ̟ KOǇIqHO ӐIvUATvWAIvONtRAKHʮpւ NGUp̨ ̞NvҗvʮpSO SOp̨ ̨EpYO YҗpDO ̞DAoȭPˆKqHO ܑNtNʮգܝtPHUܑOp֌NENpDOƨKpTOȟOqHO THݵvAHANvֽp֌NUpBO BA҈IpPO ؄qHO PHݵpFOƲp׽ ׺NpFOƲNp׽ SAM׺OpMOǓpYO YAKpRO RUAqUpLO ԑqUpWOȸENpSO SʔsRUSIsSUApHO HIPpLO CHݮpO ʮpHOǝKHUKpPAI޿NOIpSʺ ApԳHAN-AKATpSʺ AAvMuIvIuUEwEvvUp׻NTHU𐀅gކ ۺBAHTf̟ Sʺ EuAEuOuAIǓIMUAN#ʔIpӦKHʮYAOpMAҶMOKsTAIKHUs EKtܝuRIt̞T܆ApܑNܑӐTpNIӑITpYʦKӅpFֽԶf͸lַlݙmѨlЊmҴlګmϔlΥlքf̟ ʮӐNKHUpKHOMUT𐀦aLAOǌKOmH֢𐀂pTAM𐀂lPʝНlւlCOlPʝ̞lSOȟM𐀂lPʝҼlNYOlPʝ֠qݎsHAqͤsHAq֋lDOlTOmH֢pTAMlPʝͭlNOlBOlPOmH֢lFOȟMl׽ȟMlF֢lPʝ˫lMOlYOlLO ԑ𐀂pOOT𐀂lWOlٳSKٙ ڇvSAm֢lH֢lPʝԘlOlHOȟMeαeޠApԳӅpAAqMpIqIpYqYpUqUeڠPʝޖeޠԳKONeځޠLOtNYO𐀃eޠEqIpOpAYqI𐀂eKO LA𐀂eܶԳEKnܝoInCA܆Ae̋LˎeNIGGAHұ𐀃e͸kַkݙlѨkЊlҴkګlϔkΥkք𐀃eHOǝhMOeԆKHMU GOqNYO𐀡aTI˨N ۸OMiԺGTτߌ T٧CA܈A!-UM RNAM BCADǓ&G" ++
  "TτݍǓnқߌ MDUNǓn̵Ҙߌ SGABǓoARωߌ PѬ ڈǓnߌ ݍ ڈǓnSBRUL ڈnBSӠ ߌoӁߌnҠSYLӢѳݍnDEԍITτݍ B۝nڈn֡S ڈnݍ ڈn֡S ݍ ڈnْ CHδSPݵS ڈoGYA Ъ ڈn̕ω-DZUDȊǕ ԛơNnGTτݍiLOGOݣȒ̞DȊwԉGȊiAS݉ԙڠSЩ GCʩ-CфȊ!-KHYUDǵ!SDֽ TڛGSiڠRͧ DKAR GCIGy֡Sy۱sNAG GCIGx֡SsDKAR RͧǛGi͸oַoݙpѨoЊpҴoګpϔoΥoքoмǯtݙuѨtЊuҴtګuϔtΥtքtߙiԺBSDUSȊnվS BZݵ ֡ ZLAn̕ω-DZUDȊ Bߝ MIGơNnվS BZݵ SGORȊn̡ MGOn݋ -PHRUnGUGȊ GYONzASnʯKHʯGYONzASiڠYAR TڍSnԹ TڍShǏqHApGAqHApվpCAqHApJA𐀂p֠pݎrHApͤrHAp֋pTAqHApDAqHApNApPAqHApBAqHApMAp݋rHApΘrHApWApߛqAp-ApYApRApLApڇqSAqApHApApKۖpϻ-ЇȄpKKAp٤𐀅iޡtIuItUuUtޚ$R#L$LtEuEtOuOiڠRJESț վȇoNAM BCADiޠكI%Iiڠ֡ ZLAǛA DAnSNA LDANiԺлʵnPAԫAiڠLCIȊnYʮȊnLCE ݋ơNnԿnGRU CʩRGYҗSrMΟRGYҗSnҥԿi۫DȒLCE ݋ơNxԿxҥԿrǏ!HAzGA!HAzվzCA!HAzJA𐀂z֠zݎ#HAzͤ#HAz֋zTA!HAzDA!HAzNAzPA!HAzBA!HAzMAz݋#HAzΘ#HAzWAzߛ!Az-AzYAzRAzLAzڇ!SA!AzHAzAzKۖzϻ-Їȸ;YA;RA𐀂iKU RU Ӑr Bߝ MIGơNiCʶLӰȒыBΝ!ԌBΝ!Cʮȣ-U!SBUB -CлiۺDRIL BUpRDO RJEpPADMA GDANpRDO RJE RGYA ЪpPѬǵpNOR BUv ֡SƀwG۱ƀwBߝƀ𐀂iڠRͧǛG Rͧ DKARwG۱iԺBSӁGIǘnM֠M YIG GIǘn֡S ݍnқBRDA RNYҘߌ MDUNǓn̵ҘBRDA RNYҘߌ SGABǓaىɥ۵aӲɥ۵aىɥ۵ɆSaӲɥ۵ɆSaTI˨NǔǋADҘM̞NȊnTRʌҘM̞NȊ𐀦aM޿ԹǏqHApGAqHApվpCAqHApJAqHAp֠q֠pݎrHApͤrHAp֋pTAqHApDAqHApNApPAqHApBAqHApMApYApRApLApWApSApHApԘpApڋApIqIpUqUpEpMִEpOpAUiޠTʟ AAtAAtIuItUuUtEtAItMִIIxOtEƁiڡn΅nޗnޖnASATi̓ՂYA&RA&WA&HAiԆЮ SAi͸oַoݙpѨoЊpҴoګpϔoΥoքiڠԕ "

def namePart1 : String :=
  "پnپiۺLO̘Ҵp̹؆TEDpAF׆MμַDpGEևҴiԆڇqSApޚyRxLyLiޠޚ$R#L$LiԆMִվtҼtBBAvEi̓MִՂNA.MA.LAiԆSGAWǈڇiޠSGAWǈEUiܸ SGAWǈHAܚ%KE ׽iԆWEܑۢ+PWAiޠWEۢEU<UEiڠWEܹۢ1;2;3;4;5iԆEAۢ֋+YWA+GHWAiޠGEBAǈItK˒H OEzUzEEiԆڋKAvHAuGAuCAuZAu֠uDAuNAu׺uFAuBAuܑuHAi̓ڋՂWAiޠڋAAyEzƁyϱYiڠڋܹ2x3x5x6sCבCIL ܹ2(3!EM׺ܦܵiԆRUԳPʔݵƲiڠRUԳPʔݵ ܹ5iڋ͸tַtݙuѨtЊuҴtګuϔtΥtքiڠӓܹ1z3iޠAITִA!IiۺڋַuϚaЛ̑Ny˘yЖyDONyENyVINyߘy܂yINyӅyLASyԶyհyONyפyZфyحyٳy܃yUNyPфyKфyНNyQARyڔy̧NzANyJILyCILzфyXANyҼNyHAEzEzIEyWEyфzOE𐀂yYN𐀆yAEN𐀃iǍNq˘qЖqDONqENqVINqߘq܂qINqӅqLASqԶqհqONqפqZфqحqٳq܃qUNqPфqKфqНNqQARqڔq̧NrANqJILqCILrфqXANqҼNqHAErErIEqWEqфrOEqFIqYNqίFIqݓЖqʍjצ ڄaբЛհaЛԆAENqхqӢIʓaу̨ڃӚqۘqփqܩqۗܩqوqՙq׿qۙqکqۚqѽq̬q̬ۗqCєqӕqܛq׼qѕqփɨqۗփqփ-ܩw׿qܩɨqو-փqۗوqو-ѕqӈوqՙ-׿qӈՙq׿ɨwփwܩwک!ɨ#ܩ#׿wۚwک-̬w̬xєwܛw׼qӉyۙqکɨvփvܩvوvՙv׿!ɨvۚvѽv̬wєvӕvܛv׼vѕq̧TUϐکyۚrȨֽϐک#ۚqסqѽɨwܩwՙw׿wکwסqۗѽqѽ-̬xєwܛw׼qߊq̬-ѽrHITUϐ̬y̬ۗrȨֽϐ̬#̬ۗrє-ӕyѕtTUϐCєrȨֽϐCєq׼-׿qӈ׼qۗѕq߈qӚ-ܩqփɭw̬wѕqܩ-وqϰhJݵڃϰrAsErYAtErEOsrYEOtrOrWAtErOErYOrUrWEOtsIrYUrEUrYIrIrA-OtUrYA-OuYOrEO-OuUuEUrYEO-OvUrO-EOutYEtOtUrYO-YAwEvEOuOuIrU-AuEtEO-EUtYEtUrYU-AuEOvuYEOwuUuIrEU-UuEUrYI-UrI-AtYAtOtUtEUtAحArAحAw-EOxUxIrۗAحArA-EUrYA-UsEO-YArO-YAvEiֽڃӚrۘrӚɭrփw-̬xѕrܩrوwɨxՙx׿xکxܛx׼xѕrՙr׿wɭrکrۚrѽr̬sєrӕrܛr׼rѕrӚ-وyکɨrփɨxܩxکxסxܛrܩɨyوrوɨɭxփxܩ%-ѕrۗوrو-ՙɨ%کx׿ɭ%ѕxӉxۚxסxӕx߈rՙɨxوx׿xکxۚxס" ++
  "xCєxѕrӈՙr׿-وx׼xѕrӉrکɨwܩwوw׿rסrѽɨxۘrۗѽrѽ-ӕrߊzɭ!סr׼-׿rӈ׼rѕ-փxوxՙx׿r߈rӚ-փy׿yCєyӕyѕrۗփaό۸HAtUtItAAtEEutOuAsLAtUtItAAtEEutOtWAsђuUuIuAAuEEvuOuWAsMAtUtItAAtEEutOtWAsSZAuUuIuAAuEEvuOuWAsRAtUtItAAtEEutOtWAsSAtUtItAAtEEutOtWAtHAuUuIuAAuEEvuOuWAsQAtUtItAAtEEutOuAtWA𐀂uIuAAuEEv𐀃tHAuUuIuAAuEEvuO𐀂uWA𐀂vIvAAvEEw𐀃sBAtUtItAAtEEutOtWAsVAtUtItAAtEEutOtWAsTAtUtItAAtEEutOtWAsCAtUtItAAtEEutOtWAsXAtUtItAAtEEutOuAtWA𐀂uIuAAuEEv𐀃sNAtUtItAAtEEutOtWAtYAuUuIuAAuEEvuOuWAsФA!U!I!AA!EE#!O!WAsKAtUtItAAtEEutOuAtWA𐀂uIuAAuEEv𐀃tXAuUuIuAAuEEvuO𐀂uWA𐀂vIvAAvEEw𐀃sWAtUtItAAtEEutOuAsPфYNGEʑA%U%I%AA%EE&%O𐀂sZAtUtItAAtEEutOtWAtHAuUuIuAAuEEvuOuWAsYAtUtItAAtEEutOuAsDAtUtItAAtEEutOtWAtDAuUuIuAAuEEvuOuWAsJAtUtItAAtEEutOtWAsGAtUtItAAtEEutOuAtWA𐀂uIuAAuEEv𐀃tGAuUuIuAAuEEvuOuޤsܑuUuIuAAuEEvuOuWAs̞uUuIuAAuEEvuOuWAs׺uUuIuAAuEEvuOuWAs݋uUuIuAAuEEvuOuWAtZAuUuIuAAuEEvuOvAsFAtUtItAAtEEutOtWAsPAtUtItAAtEEutOtWAsRYAsMYAsFYA𐀃j̻КˍƅޟԂtޟԂtКˎjٿj޺DۍjВj̼jڂj̷jPREϣ ̷jتjצ ڄjͷpݙqѨpЊqҴpګqϔpΥpքj֜rެrќqЈrѿqگrϗqΪqֆqѫq܎𐀄j۸SE˝MWAsMWIuEEvsSE˝BWAsBWIuEEvsSE˝FWAsFWIuEEvsSE˝PWAsPWIuEEvjܴʑԺYIZETuͪETuRIKRIKuژRIKRIKuDIFATuKENATu̧RETuHѹTuͪET-HѹTuӠT𐀇aCѐOKEEǍqEqIqOqUqVqGAqKAqGErIrOrUrVqHArErIrOrUrVqLArErIrOrUrVqMArErIrOrUqNAqHNAqNAHrErIrOrUrVqQUAsEsIsOsUsVqSArrErIrOrUrVqDAqT" ++
  "AqDEqTEqDIqTIqDOrUrVrLAqTLAsEsIsOsUsVrSAsEsIsOsUsVqWArErIrOrUrVqYArErIrOrUrVqMV𐀃jںYExIxOxUxVwMV𐀃bʫCS ѮtEtʂtIuItOuOtYɣOOt̗EE#ItAuAtWEtޮWEuItޮWIuIItޮ޴uOtޮWOuOOtޮ޹tձ޹tWAtޮWAuAAtޮޤtձޤtAItYɣWtХtϱʆzЬz˻нٓzܼнٓzً ٓ#NGzΊʆ)ژޒSzՔzژѤz؇zΑtENtINtONtANtPEuʂuIvIuOvOtYɣPOOt̗э$ItPAvAuWEtޮPWEtPWItޮPWItP޴tޮP޴tPWOtޮPWOtP޹tޮP޹tPWAtޮPWAtPޤtޮPޤtYɣPޤtPtޮPt̗HtTEuʂuIvIuOvOtYɣTOOt̗ͦ$ItTAvAuWEtޮTWEtTWItޮTWItT޴tޮT޴tݙtޮݙtT޹tޮT޹tTWAtޮTWAtTޤtޮTޤtձTޤtTuTEvIvOvAtKEuʂuIvIuOvOtYɣKOOtKAvAuWEtޮKWEtKWItޮKWItK޴tޮK޴tKWOtޮKWOtK޹tޮK޹tKWAtޮKWAtKޤtޮKޤtձKޤtKuWtۉ-SLAVEY KEH+IH+OH+AHtCEuʂuIvIuOvOtYɣCOOtCAvAuWEtޮCWEtCWItޮCWItC޴tޮC޴tCWOtޮCWOtC޹tޮC޹tCWAtޮCWAtCޤtޮCޤtձCޤtCtٶTHtMEuʂuIvIuOvOtYɣMOOtMAvAuWEtޮMWEtMWItޮMWItM޴tޮM޴tMWOtޮMWOtM޹tޮM޹tMWAtޮMWAtMޤtޮMޤtձMޤtMtޮMtMHtˋPASCʩMtٶMtNEuʂuIvIuOvOtYɣNOOtNAvAuWEtޮNWEtNWAtޮNWAtNޤtޮNޤtձNޤut̗NGtNHtLEuʂuIvIuOvOtYɣԞtLAvAuWEtޮLWEtLWItޮLWItL޴tޮL޴tLWOtޮLWOtL޹tޮL޹tLWAtޮLWAtLޤtޮLޤtLtޮLtՂLtSEuʂuIvIuOvOtYɣSOOtSAvAuWEtޮSWEtSWItޮSWItS޴tޮS޴tSWOtޮSWOtS޹tޮS޹tSWAtޮSWAtSޤtޮSޤtձSޤtStˋPASCʩStSWt˱Ѕ StMOOSEɣSKtձSKW$-W$PWA$TWA$KWA$CWAtڍvIwIvOwOvAwAvWEtޮSѭtSHWItޮSHWItSH޴tޮSH޴tSHWOtޮSHWOtSH޹tޮSH޹tSHWAtޮSHWAtSHޤtޮSHޤtSHtYEuʂuIvIuOvOuɣߐuAvAuWEtޮYWEtYWItޮYWItY޴tޮY޴tYWOtޮYWOtY޹tޮY޹tYWAtޮYWAtYޤtޮYޤtձYޤtYtBI˵ɣYtޮYtٶYItREuɣRE" ++
  "tޮLEtRʂuIvIuOvOtޮLOtRAvAtޮLAtRޤtޮRޤtRtޮRtՂRtFEuʂuIvIuOvOuAvAuޤtޮFޤtFtܓtNɣܓtܚtNɣܚtܚItNɣܚItܝwOvAwAvޤtޮTHޤtTHuܓwIwOwAwuYEvIvOvAt֟AVIK HE$I%I$O%O$A%A$yUT HtHKtQʂuIvIuOvOuAvAutTLHEwIwOwAtޮRE&I&O&AtNGʂvIwIvOwOvAwAvuNGtٶڍ$I$O$AtW־Sɣܓ)I)O)A)tLHIwIvOwOvAwAvtTHɣܓ%I&I%O&O%A&A%tAIVILIK Bt˱Ѕ E%I%O%A%WE&I&O&A%NE&I&O&A%KE&I&O&AtٶHE#I#O#At̗GHU%O%E&E%I%A#RU$O$E%E$I$A#WU$O$E%E$I$A#HWU%O%E&E%I%A#THU%O%E&E%I%A$TU%O%E&E%I%A#PU$O$E%E$I$A$#GU$O$E%E$I$A#KHU%O%E&E%I%A$KU%O%E&E%I%A%#NU$O$E%E$I$A#MU$O$E%E$I$A#YU$O$E%E$I$A#JUtٶJUt̗JO$E%E$ItٶJIt̗JA$JU%O%E&E%I%A#LU$O$E%E$I$A#DLU%O%E&E%I%A#LHU%O%E&E%I%A#TLHU&O&E(E&I&A%U%O%E&E%I%A#ZU$O$E%E$I$A$#қZ#DZU%O%E&E%I%A#SU$O$E%E$I$A$HU%O%E&E%I%A%#TSU%O%E&E%I%A#CHU%O%E&E%I%A#TTSU&O&E(E&I&AuHIȑtВtQAItվIuNGIxIwOxOwAxAtW־SɣTѭE+I.I+O.O+A.A&ϱTHt˱Ѕ WaOGпȖǔgԆBEITHnLUISnFΛNnSʌnNҧnUˊnDʎnܯNEnCֱoEIRTnMUINnG׊nNGEA͜nۧIFnRUISnʌMnONNnURnEAͭDHnIOͭDHnEA˫DHnORnU҇EANNnIFINnEAMHʬHֱnPEITHgFEAܖǔgكFEAܖǔ𐀄a٧ICǌϩU FEOH FE FnVnURUZ UR UnYRonWnTѬISAZ TѬS TѥnϋnANSUZ An׋OnAC AoESCnԝOSS Onڙ-OSS OnOoEoNnRAIDOȄDȅID RnKAUNAnCENnKAUN KnGnκnGEBO GYFU GoARnWUNJO WYNN WnHAGLAZ HpEGL HnԝHAGʟ Hnڙ-HAGʟ HnNAUDIZ NYDǛUD Nnڙ-NAUD Nn·-NnISAZ IS ISS InEnJERʩJnМnԝAR AEnڙ-AR AnIWAZ EOHn׳ܝ PE׊H PnALGIZ EOLHXnSOWILO SoIGE" ++
  "L ԝSOL Snڙ-SOL SnCnZnTIWAZȨR TYR Tnڙ-TYR TnDn˦ӅʩBEORC BJARKʩBnڙ-BJARKʩBn·-Pnׁ-PnEHWAZ EH EnMA֋Z ԷMnԝMADR Mnڙ-MADR MnLAUKAZ ӣU LOGR Ln·-LnҗWAZqn͚AZ DAEG DnOܒʩEܓL OnΛnIORnCWE׊HoALCoEALCnS܂nԝYRnڙ-YRnѷLʭIC-YRnQnXgڧءgթ ءg͌ ءgARLAUGȞgTV҈DURȞgˢGTѠȞgԆKnSHnOOnFRANKSơSKωOS#IS#EH#AC$ESC𐀈aTAДOGǍpIpUpKApGApվpTApDApNApPApBApMApYApRApLApWApSApHAiޠItUiڣnPAMUDPOD𐀊iԆʽRAaHA֟OOǍpIpUpKApGApվpTApDApNApPApBApMApYApRApLApWApSApHAiޠItUiڠPAMUDPODa׻ԓPҔ ڧءlΊء𐀊aBUHIDǍnInUnKAnGAnվnTAnDAnNAnPAnBAnMAnYAnRAnLAnWAnSAnHAgޠIrU𐀍aTAG˘WAǍqIqUqKAqGAqվqTAqDAqNAqPAqBAqMAqYA𐀂qLAqWAqSA𐀂jޠIuU𐀍aKHՎǏoHAoOoHOnւnCAoHAoOoHOnNYOnDAnTܑnDOnTܝnNNOnTAoHAoOoHOnNOnBAn׺oOoHOnMOnYOnROnLOnVOnڇoSOoAnHAnLAnQAgҎEױͩ ޟQAQ!AzI!IzU!K!U#VyRY!YyLY!YyQEzAIzOO ݣǯ+ݙzAUgޟINѐλ AQwAgޡrIsIrYsYrUsUsArOErYArIErErAEsIrOOrAUgڠNIKAHITlسHMUKlYUUKʖA؁TUlMUUSIKˏANl݃ISAPlBʴOClROBATlTOAմKHIATlӄABATlAHSDAlSAMYOK ٳ֠lVҪAMlCOκlBˊʦSATlӐNl˙IߐٳlCAMNUC ؀ KUUHlLEKȬOlBEYYALlPHNAEKǙANlKOOMUUTgCކ ۺهLgڠAVAKRAHASA֠mTܑCAN𐀃g͸mַmݙnѨmЊnҴmګnϔmΥmք𐀇g۹ǋK AݎK SONxիx؀xBEIyݷxPر#-ի$؀$BEI%ݷ𐀇aMOւLѱˮkαk̼kВk̷kЌkTODO ۇ ѮkSIBE ۸BOUմRYǔERkԸ̼rВkNIRUGUkFع ދǯ.ݙ:ѨkޟڄkFع ދ Њk͸qַqݙrѨqЊrҴqګrϔqΥqք𐀇jǍrErIrOrUrOErUErEErNArʮrBArPArQArGArMArLArSAsHArTArDAr̞rJArYArRArWArFArKAsHAr݋rZArеrZRArԉrߝŗrTODO ԜޞȑwEwIwOwU" ++
  "wOEwUEwʮwBAwPAwQAwGAwMAwTAwDAw̞wJAw݋wYAwWAwKAwGAAwеwJIAwNIAwΘrSIBE EwIxYwUExwʮwKAwGAwHAwPAwڇwTAwDAwJAwFAwGAAwеw݋wZAwRAAw̞wߛrԸIyKAyRAyFAyߛrCHʀݛ𐀈rʞʸǯ!ޗǯ!DAԹU!U˖ʦ!ҥU˖ʦ!BALݪ!ܟBALݪ!A!I!KA!վ!CA!ݎ$HA!ͤ!֋!TA!DA!PA#HA!ۖ!ߛ#A!AHrTODO ʞTA(ߛrԸʞН+վ+CA+Ҽ+ݎ+Dͭ+TA+ͭ+ۖ+CYA+ߛ.ArʞнU(YArԸʞ˫rʞDAДGArԸʞԉ𐀆aCʫCS OYtAYuAYtWAYtPOYuAYuWOYtTAYtKAYuWAYtMAYtNOYuAYtLAYtSOYuAYuHOYvAYvWOYtYOYuAYtRAYtNWIt֪NWItN޴t֪N޴tNWOt֪NWOtN޹t֪N޹tRWEEvIwIvOwOvAt֪P#T#K#C#M#N#S$HtEAۡN WtWEۡN Wtϱڷٓzد΃tRɣRWEtޮԞ&AAtTѭwAuTѭwOOwAAuLѭwOOtٶSѭ$OO!ўt̗GWU#DENE GEE#GAA$WAtٶJUUt̗JWAt˞ލƨNE L(Rt̗ͩʑS𐀋aLIԾ ޞ-̗LώRfǏoHAnGAoHAnվnCAoHAnJAoHAn޿nTAoHAnDAoHAnNAnPAoHAnBAoHAnMAnYAnRAnLAnWAnڇoSAoAnHAnG޿n݀𐀂gޠArIrUrEErAIrOOrAUrErOg۫DǌYAxRAxWA𐀅gڶǏtվtʸtTAtNAtPAtMAtRAtLAgڠMUKPHRκlKEMPHRκlSA-I𐀅lԞ𐀄gϛgتg͸mַmݙnѨmЊnҴmګnϔmΥmքaTAIǋǏoXAoվo݋oSAoYAoTApHAoLAoPApHAoMAoFAoVAoHAoQAoӐoTڇoNAoAoIoEEpHoUoOOpoUEoEoAUEpI𐀃oܹ2t3t4t5t6𐀌aս TʋLUEǌіQAtԣQAtіKAyXAyվtԢǇxXAxվtі݋ySAyYAtԣ݋xSAxYAtіTAzHAyNAtԢȟyHAxNAtіPAzHAyMAtԢǵyHAxMAtіFAyVAyLAtԢƲxVAxLAtіHAyDAyBAtԢƼxDAxBAtіKVAyXVAtԣKVAxXVAtіSUAtԢțA𐀅mޠޟڗEչxAAxIIxUyUxExAExOyAxUExAYyAYxUYxOYyAYxUEYxIYmԆϱVzNG!zMzKzDzBmܸ-1w2𐀇m͸sַsݙtѨsЊtҴsګtϔsΥsքmTп ͷ𐀄mڠLAEuVaKHMτۺPˊʦSATnիǊn؀ǊnBEIǊoݷǊnPرǊr-իǊs؀ǊsBEIǊtݷǊnDAPǊq-իǊr؀ǊrBEIǊsݷǊrPرǊnTUTEYASATnիȈn؀ȈnBEIȈoݷȈnPر" ++
  "Ȉr-իȈs؀ȈsBEIȈtݷȈnDAPȈq-իȈr؀ȈrBEIȈsݷȈrPرȈaBUGIպEǏqGAqվsKAqPAqBAqMArPAqTAqDAqNArRAqCAqJAq֠sCAqYAqRAqLAqVAqSAqAqHAjޠIuUuEuOuAE𐀃jPʠWAjθپaTʋTпǌіKAwHAwXAqԢǇvXAvHAqվqіCAwHAqԢơuSAu̞q֠qRˆqіRˋqDAqԣRˋqRʪqіTAwHAqԢȟvHAqNAqBAqіPAwHAvFAqԢǵuFAu׺qMAqԣYAqіYAqRArUEqLArUEqWAqіڇwSAwAvHAqԘqAqԢƼqIrIqUrUqEEqOOqLAEqЮ SAj̓ՂRA(LAyLA TʯLAIjڠԳKʯLAIj̓ϱվyԢǵyіRˋǱԢǵyMAyBAySA𐀂jڠSAKOTjޠAuԳSATuAAuTʟ AAuIvIuUEvUEvvUuOvAƜvYuEuAEuOOuAIuTп AIuOAƁjڠԳKʮoܹ1t2oKHUδܹ3z4z5oRA еMoԳSAMoKHUEN-LUE KʺN𐀃j̻͏ƬjѠA ͸uַuݙvѨuЊvҴuګvϔuΥuք𐀇jTп ͸uַuݙvѨuЊvҴuګvϔuΥuք𐀇jڠWIʮtޤKoSAWANoKEOWoHOYoDOKMAIoكٝRʪoԳYAMOKoӂNsKUUoSATӂNvKUUoHʮoCAʮ𐀃a̻ΉD ̲Ƅkͯ-ٓkҕkΕk݇ƬkX-XƜk޳ԎƜkׁǔƜkΊׁǔƜkԌ̛șƜkۦֽ ̛șƜkשESƁkΊשESƁkשESƜwלkӯWƜ%ݓWƜkӵƂӲkٌƂىkӵƜ ӲkٌƜ ىkۓSƁk֛ƁkҥΊARCHƁk؈ƁkΊ؈Ɓ#ˣk݈ʇkӯҞG<R<T𐀲aBAԎSEȒݱ RѷMšoCECEKoSURʮoBISAHiǍKʺvȤqIKʺvȤqUKʺvȤqRAȅPAxȤqLAǋվyȤqEKʺqAIKʺqOKʺvȤqKAs ԲqGAs GORAqվqCAs LACAqJAs JERAq֠qTA LˌKsǚ ԲqDAǚ ALעRʪzԲqNAȄԼTqTAs ܆AqDAsǓDUqNAqPAsǇןqBAs KEMBʮqMAqYAqRAqLAqWAqSA SAGAvPAsqHAjڠREREӅjޞȑȤuݱx SARIuSݭy IԫuRAȅPA#ȤuLAǋվ$ȤuTAԑ!ȅPA!Ȥ#REPAȤuPEPETzȤjʈG ʈGiǏFȍrHOTȍqTZIRȍqEFȍqVEȍqZALȍqASYURAȍqʽJ֠𐀄j͸pַpݙqѨpЊqҴpګqϔpΥpքjPʶlMADAj޵Uj̕IKǵMUցAHpSIKIpפEؼjPAՌκjլ ۺDֽzκzݵzʮ$țRʮzҗzAκzEݵzAҗzʯGEDEy̺ȣGEH.ηEP.KEMPUL=LI.JEGOЖ.KEMPUӡJEGOЖ=LѯJEGOЖ.BηE.Gֽyى-т ׂDUG@AG:̶TUK]AKyӲ-т ׂPʮ?ݵ.̶PӦ]" ++
  "UK.ׂ؂jPʶ LʴʮlMADA Lʴʮ𐀂aSUմպEȑǵNYECEKsGL˒RtWI٬jǍrIrUrAErOrEsUrKArQArGArվrCArJArZAr֠rTArDArNArPArFArVArBArMArYArRArLArWArSArXArHAk̓PAMIցAL#֠KRA%IKUkޠPʮHݱyYݭyAΫκyOԛxMEPETxNEULEݵkڠPʦAEHpޖk̓PAٳЖǓ.WAkԆӐrSYAk͸qַqݙrѨqЊrҴqګrϔqΥqքkˑkԆREUrLEUr˫rϱKxMaBˆKǍnڤAnHAnڤHAnMAմIԑƼnBAnKARO BAnPAnڤPAnNAnMAմIԑǛnWAnڤWAnPAKPAKȸnGAnڤGAnJAnDAnRAnڤRAnMAnڤMAoOUܖNȟn֏ERNȟnSAnڤSAnMʭʌҘSAnYAnڤYAnվnLAnڤLAn֠nCAnմnԼnInUgڠTOMPIgޠErPAKPAK ErEErIrKARO IrOrKARO OrUsƵڤSAg̓NGvHgPAւLATjOւNAN𐀉gۺBҎUǛ ՏEKtPIհBORAStJUDULtPAւLATaLEP̞ǏpLApHAoGApLAoվoCApHAoJAo֠oTApHAoDAoNAoPApLApHAoFApLAoBApLAoMApLAo݋qHAoΘoYAoRAoLAoHApLAoVAoSApHAoWAoAh۫DǌYAyRAhޡsIsOtOsUtUsEh̓KwMwLwNwPwRwTw֡N-DOwKʮhڠRANm֗𐀄hءȟ-ROLtNYωTHߐMȟ-ROLtCER-WAtTSџ CER-WAzh͸nַnݙoѨnЊoҴnګoϔnΥnք𐀄hԆݎqHAoͤaOL ̧KI ͸pַpݙqѨpЊqҴpګqϔpΥpքjԆLAqATrGrNGrLqLAAqAAKsJsMsWqLIqISrHrNYrRqLUqUCrDrNNrYqLEqEPrDDrNrRRqLOqOTTrBrVrHjMU TTUD͚jGAAHLAA TTUͤAGjMU-GAAHLAA TTUͤAGjRΫAjPеRӂjAHADjءǙCAADvΉǙCAADa͘ ں٢VEwԛ-ԀGEDƨwNˀ OwWѹ ESwTʟȣxѨ-ԀGEDȣxʟ х#YATwUNBLηΟUK𐀈aЛMTAVRULI ̑N+˘+Ж+DON+EN+VIN+ߘ+܂+IN+Ӆ+LAS+Զ+հ+ON+פ+Zф+ح+ٳ+܃+UN+Pф+Kф+НN+QAR+ڔ+̧N.AN+JIL+CIL.ф+XAN+ҼN+HAE.E.IE+WE+ф.OE+FI+YN+ίFI+ݓЖ+ʍ𐀃.EN+х+ӢIʓaSUմպE ء BҎUțRYA$Pʮԛ%URNʦ$CAKRA$LEUȎ$KAȎ$DAȎ$BAȎ𐀉aތܵǇRSHʪlڌAlPؼӐgڠNIHSHVASAlYAJURތMIDԏ۴gܶYAJURތAGЩVA܈ҏwҏwKˋKA ҏ" ++
  "ľƜlYAJURތKˋKA ҏ SCHROEͪlΊ۴l݈۴lKˋKA ANݫl΅lݝlܠƜlRIGތK˃MҪ ҏlˋRVAތҏgڠޗ ۴tݫlكޗ ݫlޗ ANݫlكޗ ANݫlޗ ݫɛtANݫɛlʸ ʵRЦuBAHIRЦuVʦЦ(ɛlTIRYAKlHEXIЇ ԜʸlԜʸlRTHʯԜʸlʸ U˫YˏǙӐmRͭޗlٝARͭޗgܶ̌ƁgڠJ҃lݿAlˌKRʦgٕܶlΊٕgڠΊʸ ʵRЦ𐀆aӮԇA$EgںݓAEgԇ˛B#C#D#ϋ$gںݓ׃!IgԇJ#K#Lɚ#M#كN#O#ׂOgںڞO$ׂO%ɚtݓOEgԇOUgںܼнOt˻нOgԇP#كR#ݓR$#UgںڞU$ͮEؾҷU$ݓMgԇV#W#Z#ϢnޛLARYNGEʑېʴnʍaаԇЕ#ө#PI#م#؜a͘ ԇELaբ̏AzEyBy˛ByDyEyكEyGyHyIyJyKyLyMyNyكNyOzUyPyRyTyUyWqڸwݓAwʣwݓAEwBwDwEwٸw׃wݓ׃wGwݓIwKwMwκwOwׂOwܼнOw˻нOwPwTwUwڞUwݓMwVwʍw˨wаЕwͨwа׻w̧aӮ۬ںI%R%U%Vaа۬ں˨%Е%م%׻%̧aӯUEtBɒtDɒtFɒtMɒtNɒtPɒtRɒ!ϷџƅՓܪtSɒtTɒtZɒtݓGaբ͘ ENaӯҞGtTHȻS݃KϋROUGHm̐IɚmԆҨɚtPɚm̔۩mԆނɚtBɕtDɕtFɕtGɕtKɕtLɕtMɕtNɕtPɕtRɕtSɕtυɕtVɕtXɕtZɕtAɘtʣɘtDɊƅ܀tEɘt׃ɘtك׃ɘtٸɘtIɘtׂOɘtυɘtUɘtϢɘaբڷݓʣwCxɁwϋwك׃wFwΆJɚwٻGwݓHwIɚwҨw̏I(ɚwJɀwLɘxɕw̏LwMɊwݓMɐwNɎџ%ـw̏Nw˛Ow׻wSɊwυwTɕwUƚwނw̏UwVɊwݓVwZxɘxɁwϢwܘa̻ΈЭrʇkSNʐƜlUSױڨǔkԮ-ʆkЬ-ԮkԮ-Ьkʆ-ԮkЬ-ʆ-Ьkʆ-Ь-ʆkӯRƜk̀-ԮkԮ-̀kΊ̲Ɓk֧ƁkߞƜkISƜkURƁlSƁkӯϽ܍ΟׂAƁ%AE&O&V%C ̙%ҞD%ϋ%GqԇGqںK%LqԇL<MqںNqԇN<RqںRȉ%S%ԜS%Z%ʣ%B&ϊ%ٸ%F%ӡΊՓܪvǐԌ̛ș%P%υvǑԌ̛ș%W%AɄ%OɄ%UɄkݽƁkKAޢƂىxӲk΄ ӲkWѹ ҥ̂Ɯk΅ Ӳlάܱǔl׏ҦƜkʡƜkӲƘƁkىƘƅ΍ƘƜaӮ̐ʀٓƜgںʀٓƜg̐BɇgںBɇg̐BɈgںBɈg̐BɏgںBɏg̐CȾƆgںCȾƆg̐Dɇgڼɇg̐DɈgڼɈg̐Dɏgڼɏg̐DȾgڼȾg̐DȿƜgڼȿƜg̎ǎԮƉgڶǎԮƉg̎ǎԮƆgڶǎԮƆg̒ȿƜgڽȿƜg̎ǎܪƜgڶǎܪƜg̒Ⱦƅ̀gڽȾƅ̀g̐FɇgںFɇg̐GȻԮgںGȻԮg̐HɇgںHɇg̐HɈgںHɈg̐HɄgںHɄg̐HȾgںHȾg̐HȻ̀ƜgںHȻ̀Ɯg̐ѯܪƜgںѯܪƜg̐IɄƆgںIɄƆg̐KȼgںKȼg̐K" ++
  "ɈgںKɈg̐KɏgںKɏg̐LɈgںLɈg̐LɈƏgںLɈƏg̐LɏgںLɏg̐LȿƜgںLȿƜg̐MȼgںMȼg̐MɇgںMɇg̐MɈgںMɈg̐NɇgںNɇg̐NɈgںNɈg̐NɏgںNɏg̐NȿƜgںNȿƜg̓ܪƆgھܪƆg̓ܪƅͯgھܪƅͯg̓ԮƉgھԮƉg̓ԮƆgھԮƆg̐PȼgںPȼg̐PɇgںPɇg̐RɇgںRɇg̐RɈgںRɈg̐RɈƏgںRɈƏg̐RɏgںRɏg̐Sɇgڿɇg̐SɈgڿɈg̐SȼƇgڿȼƇg̐SȽƇgڿȽƇg̐SɈƇgڿɈƇg̐Tɇgۀɇg̐TɈgۀɈg̐Tɏgۀɏg̐TȿƜgۀȿƜg̔ͯƜgہͯƜg̔ܪƜgہܪƜg̲̔Ɯgہ̲Ɯg̔ܪƆgہܪƆg̔ԮƅͯgہԮƅͯg̐VȻܪgںVȻܪg̐VɈgںVɈg̐WȻЬgںWȻЬg̐WȼgںWȼg̐WɄgںWɄg̐WɇgںWɇg̐WɈgںWɈg̐XɇgںXɇg̐XɄgںXɄg̐YɇgںYɇg̐ZȿgںZȿg̐ZɈgںZɈg̐ZɏgںZɏtHɏtTɄtWȻٕt޾ٕtʀً ٓtԜSɇzɅ(і۩g̐ڌP Sgںͨg̑ɈgڻɈg̑ɊƁgڻɊƁg̑ȿƆgڻȿƆg̑ȿƉgڻȿƉg̑ȿƊgڻȿƊg̑ȿƓgڻȿƓg̑ȿƈgڻȿƈg̐ʁƆgںʁƆg̐ʁƉgںʁƉg̐ʁƊgںʁƊg̐ʁƓgںʁƓg̐ʁƈgںʁƈg̒ɈgڽɈg̒ɊƁgڽɊƁg̎ǎܪgڶǎܪg̒ȿƆgڽȿƆg̒ȿƉgڽȿƉg̒ȿƊgڽȿƊg̒ȿƓgڽȿƓg̒ȿƈgڽȿƈg̐IɊƁgںIɊƁg̐IɈgںIɈg̓΅gھ΅g̓џƁgھџƁg̲̓Ɔgھ̲Ɔg̲̓Ɖgھ̲Ɖg̲̓Ɗgھ̲Ɗg̲̓Ɠgھ̲Ɠg̲̓ƈgھ̲ƈg̓ѥƆgھѥƆg̓ѥƉgھѥƉg̓ѥƊgھѥƊg̓ѥƓgھѥƓg̓ѥƈgھѥƈg̔΅gہ΅g̔џƁgہџƁg̔ѥƆgہѥƆg̔ѥƉgہѥƉg̔ѥƊgہѥƊg̔ѥƓgہѥƓg̔ѥƈgہѥƈg̐޾Ьgں޾Ьg̐YɈgںYɈg̐YɊƁgںYɊƁg̐޾ܪgں޾ܪg̐՘LLgں՘LLg̐՘Vgں՘Vg̐޾ԟgں޾ԟaаںʣɖ&͠&ؠ&ͣ&؞&͡&؟&͢g̐ʣɖ)͠)ؠ)ͣ)؞)͡)؟)͢gںξɖ)͠)ؠ)ͣ)؞)͡𐀃g̐ξɖ.͠.ؠ.ͣ.؞.͡𐀃gںϊɖ$͠$ؠ$ͣ$؞$͡$؟$͢g̐ϊɖ&͠&ؠ&ͣ&؞&͡&؟&͢gںҨɖ%͠%ؠ%ͣ%؞%͡%؟%͢g̐Ҩɖ(͠(ؠ(ͣ(؞(͡(؟(͢gںֳɖ)͠)ؠ)ͣ)؞)͡𐀃gֳ̐ɖ.͠.ؠ.ͣ.؞.͡𐀃gںނɖ)͠)ؠ)ͣ)؞)͡)؟)͢𐀂g̐ނȻ͠𐀂.ͣ𐀂^מ𐀂^׶gںֲɖ&͠&ؠ&ͣ&؞&͡&؟&͢gֲ̐ɖ)͠)ؠ)ͣ)؞)͡)؟)͢gںʣɝ&מtξɝ)מuTAɝ$מtҨɝ%מtֳɝ)מtނɝ)מtֲɝ&מ𐀃tʣɖƔ&͠Ɣ&ؠƔ&ͣƔ&؞Ɣ&͡Ɣ&؟Ɣ&͢Ɣg̐ʣɖƐ)͠Ɛ)ؠƐ)ͣƐ)؞Ɛ)͡Ɛ)؟Ɛ)͢ƐgںϊɖƔ$͠Ɣ$ؠƔ$ͣƔ$؞Ɣ$͡Ɣ$؟Ɣ$͢Ɣg̐ϊɖƐ&͠Ɛ&ؠƐ&ͣƐ&؞Ɛ" ++
  "&͡Ɛ&؟Ɛ&͢ƐgںֲɖƔ&͠Ɣ&ؠƔ&ͣƔ&؞Ɣ&͡Ɣ&؟Ɣ&͢Ɣgֲ̐ɖƐ)͠Ɛ)ؠƐ)ͣƐ)؞Ɛ)͡Ɛ)؟Ɛ)͢Ɛgںʣɞ&Ԯ&ފƔ&ߑ&מƔ𐀂&׶@Ɣg̐ʣɞ)Ԯ)ފ)מ)؛gKOٛISg؛g؝g׶gͳƅ׶gںϊɝƔ$ߑ$מƔ𐀂$׶>Ɣg̐ξɝ.מwTAɝ&מ&؛gؠqמq׶gںҨɞ%Ԯ%ͳƅފ]מ𐀃%׶%ͳƅ׶g̐Ҩɞ(Ԯ(ފ(מ𐀂gͣqמq׶gںނɞ)Ԯ)ͳƅފ|מtمɖ$͠tނȻ׶)ͳƅ׶g̐ނɞ.Ԯ.ފ.מvمȻ͠gͳƅފuמgފ𐀃gںֲɝƔ&ߑ&מƔ𐀂&׶@Ɣgֳ̐ɝ.מvֲɝ)מ)؛gמg͠𐀂aδؤbM ؤbNȖbMȖaܞ-׳-EMȖaЊ-׳-EMȖaګ-׳-EMȖaϭȖaءȖaܚNȖaкȖaߙ ޲ȖlNON-ҾlҾaӲɱىǔaىɱӲǔaѮaNON-˾ҘѮaϭƧaENƧbMƧaѣaΊޑhԤaӲȓȃaىȓȃaڧԢ-9ȃhїفD-9ȃaӳΉȃaيΉȃaΊԢ-9ȃhїفD-9ȃbAGМb׏͚Мăă݆aַƬǋAͪaݙƬǋAͪaѢαaѮˍ ؊aԏڄaצ ڄaӲɱيEԽDDҗaىɱӳEԽDDҗaPOP ͺҧʑЇATܰaӲɱيיRѹaىɱӳיRѹaNˀǝ-˾ȖaPτM҇Eȑe܎ȑaؙaΊؙaؙ݈aكؙjΊؙjؙ݈a̕ETaڧӻʰȃhَʰȃaREFERεǔaΊϛaҡaםaݳܨa̟ ܨbARωINڅܱ ؊aAۡISMaѮ ̆aЏڲaӳۓȻQU҇aيۓȻQU҇aΊتaة ϛaϚ تaTIٛѱڠETaكPIL͋Wȑa˲Ӿ̆ğِaԣ˅aكڂa̵Eȶaݚ˅S ʜGNΟގLYa̹ՎCѰ՞aSWݵƧaҥݳܨaFԥءǔaܞƭaئ ؙaЊƭbҴƭaݙƭaЊƬǔaΈ͌a̷݃aޏЌaՅԻȖa޻ҾaГ APPLѶaINVISI˵ ܭkڄk؇𐀂aӲɱيҮaىɱӳҮa϶ ۦֽ ҮaPOP ͺҧʑҮaINHI˰ SYMՏRѳSWAP؂aACTIVˉSYMՏRѳSWAP؂aINHI˰ ʻ Ї ڇ؂aACTIVˉʻ Ї ڇ؂aNˍʑͶڇ׹bOMҌ Ͷڇ׹a۳ߙmӯI𐀃mЊnҴmګnϔmΥmքm؈m՝mπmӵmٌmӯNa۬ߙkַkݙlѨkЊlҴkګlϔkΥkքk؈k՝kπkӵkٌ𐀂aӮ۬ڻ%E%O%X%ٸ%H%K%L%M%N%P%S%T𐀄aϑ-Cކȑa̷ȑbRUZEIROȑaFؼCH FRʬȑaLIRAȑaM҇ȑaNʎAȑa׹ϊȑa٨ȑaWONȑaս ڍQELȑaDֽȑaϑȑaKIPȑaTUGRIKȑaΖȑaМԷױNYȑa׹OȑaGUʺNIȑaAUۦʓaHRYVNIAȑaCEDIȑaLIVRE TדNOI٫aS׹՚OȑaTκEȑaҎѱ٨ȑaݑKҬ LIRAȑaNORDICǔȑaMʪTȑaRU˵ȑaLARIȑa˰COINȑaSOMȑ𐀐a̻ӲƽƁkىƽƁkԜޑ לkژޑ לkʷƖƁk̴ƖƁkӲƖƁkىƖƁlҘלk̴ ٔלkʷ ٔלkܡkЊƮkEN̵җƢuۑuʹu̮˕ڲkӶƖƁkEN̵Ҙ"

def namePart2 : String :=
  "ٺuӎCAPuUPWʾǽ݄kق לkΊގȚkANNUITYȞk݈ݳ΃kWѹ ̂Ɓkӿ לkԜΊۈ לkُƾΓkӽƾΓoƖƜkىƖƜk˅Ɓ𐀐aACCבTǢbDDRχEDȭܓțBJΞaΌ̏CbEGع CELSIUSa̜ ԎȞbAREǢcDA UNAaEULτ̀STʴaSCRU؆aDEGعƲHؼHEITaٻڷGh̏Ha˱-Ԇ̏HaΌ̏HaPLʬK ̀STʴpǴݚPIaٻ̏Ia˱-Ԇ̏Iaٻ̏LhڷLaL BƚȞaΌ̏Na֝OȑaSבDȅ͈DҘ͇Yىaٻ̏PaΌ̏PwQaٻ̏Ra˱-Ԇ̏RaΌ̏RaPؾCRIPܱ Tʐaؾ؍SEaڅVѷǔa܋ȑbRʈǔȑaލSICLEaΌ̏ZaOUճȑbHMȑaҥOHMȑa˱-Ԇ̏ZaݓаںҨaKELVINȑaʮS݉Mȑaٻ̏Ba˱-Ԇ̏Caψ҈܈۹aٻڷEh̏EpFaݓ̏Faٻ̏MhڷOaʗȞaBETȞaРȞaDʖTȞaҖSדCEaٝ̏QaFACSIM҅ȑaΌڷPIuЕȍЕwPIoծ ۱Mˍaݓٴ ̏G!Laكٴ ̏Laݓٴ ̏YaΌҲDvڷD#E#I#Jaؚ׳TY Ԏaݓʨa׳ȑaAKܨSELSKABaݓڷFa۹ƵSʦٙʩSדCEaVULЙ ЏָSϔTHuNINTHuTλHuܜqݡqָϫqݚϫSqܟϫSqЋϫSqָګTHqFҵګTHSqָΨqܟΨSqFҵΨSqSϕΨSaЏ֝AܾǯaROԷ֞oݙpѨoЊpҴoګpϔoΥoքo܍oήoݖoϬoֻoϹǁoַȦaڶȇԷ֞uݙvѨuЊvҴuګvϔuΥuքu܍uήuݖuϬuֻuϹǁuַȦaROԷ֞Ȧ C DoϹȦo܎oكֻaӯكCaROԷ֝ʑڬLˉЇoϬ ΛLY ЇtȦoֻȦaVULЙ Џߙ ܜSaݓͶݙoѨ𐀅aӿaޅaّaΕaӶƖaݺ΍Ɩa֒Ɩa֑aۋgޭƖaӿɚaّɚaӾާƖaِާƖaӾݚцΠaބݚцΠaِݚцΠaΔݚцΠaӿɛaّɛaӿƸaޅƸaّƸaΕƸaݺ΍ƗB˂aӿɊaّɊaӽƗԟaُƗԟaӶ ާƖlˀɚaΔߞƖaރƗܲӽxُaΓƗܲӽzُaُƗ͉ ΓaΓƗ͉ ӽaʷ ܼځ̯a̴ ܼځ̯a֒ƖȭԛƚaӿȮǴّȮaʷ ׂ̯a̴ ׂ̯aӽƾރ$Γaރƾُ!ӽaُƾރ%ΓaΓƾُ$ӽaّǴӿaޅ ӽǣΕaӿǴّjǶaރǶaُǶaΓǶaӽƽǴُƽaُƽǴӽƽaӽƯɚaӶƯɚaُƯɚaӽƯaރƯaُƯaΓƯaӶƯaݺ΍Ưa֒Ưa֐ƯaۊƯgޭƯaӾ݇Ɩaِ݇ƖaӾەaِەaރƗΉșaΓƗΉșaӽƧΠaރƧΠaُƧΠaΓƧΠaӿȮaّȮaӽȺaރȺaُȺaΓȺaރȺƸuִPEDEۜL(Ȼѣ<ސnƯ!ǬPEDEۜLaُȺƷ Wʟa֒Ɩȭ͉aۋȭ͉aݺ΍ȺaىƗڶƢaΕ ӽǣޅaܟّSaӽƗޒaُƗޒaӶƗޒaӽƗΊޒaُƗΊޒaӶƗΊޒaӾׁ-цΠaׁِ-цΠaӶ ׁ-цΠaІ ʟa̹؆Սa׬aܖE EXҰSg΁EXҰaγچaINCREՍaկaέa֔ʩέaڷέaͅ٪Ǘa΁ͅ ASǗaڷͅ٪Ǘ" ++
  "aθؚOFaծȁgCOؚDUCTg۱Mˍa՞f-OR-؈aD׍؇aͿ ڲaSω՝a˅ǰaٓǰăǰaۑȇOTaCUBEȇOTaЎȇOTaؚPORܱALȬaҕaيʰaʰaՀΟʰaSPѐѵʰaͽͫa΁ͽDEaרȬa֔רȬaԚiORaҢaݶaҟaΊҟa݈ҟàTד ҟaSURϣ ҟaVOԩE ҟa̴ ҟk̀Tד ҟaʷ ̀Tד ҟaܖEF׆aBECAUSEaRˌOaؚPORܱaD׍՝aEXCχaGEOՏRѳؚPORܱaHOMOܓTICaܫaكܪaҥLAZY SaSҔ ާaWREˊȁa֔ܪa՝ ܪaASYMPTOTѴLYưa֔ASYMPTOTѴLYưaAؕLYưnƠ ACTUʟYưaշAؕLYǝR ACTUʟYưaʡa֔ʡaALMOST ο ׅa݈ܪaʟưaEثVALλȬaGEOՏRѴLYƱaDIFFERε ˪aAPؚA̡S ܔԍITaGEOՏRѴLYưaAؕLYưǱܔ҉Ǣa҉ǢǱAؕLYưa̷ οSaοS ̷aٔINưeưa͈ؾ؍DSȬaEۣMˈSbثʮݮRȬa۝ οSaͨưaοȭBYƨFINIܱaՀΟBYaةEDưa֓ưaIͩѴȬa֔IͩѴȬaS݃CTLYƱaԅ ׅaЯ ׅaԅ יưaЯ יưaԅƠưaЯƠưaMݨ ԅfЯa˪a֓ƱeԅeЯaշԅ NׅiЯ Nׅaԅ ORƱaЯ ORƱaշԅǝRƱiЯǝRƱaԅǱЯaЯǱԅaշԅǝR ЯiЯǝR ԅaؗa۰aؗ ׅa۰ ׅaؗ ORƱa۰ ORƱa΁ؖEjSUCCEEDaۭǢc׷Ǣa֔A ۭǢi׷Ǣaۭǣׅc׷ǣׅaշA ۭǣNׅm׷ǣNׅaۭǢȻ֓ưc׷ǢȻ֓ưaMݰIچi ժjݶaے҉ǢhׇǢh҉ǣׅhׇǣׅhCAPiUPa̰؇i՝iܭiͿ ڲjOTǰiٓǰi˅ǰiοShƧa۔ ؇i՝iܭi΃ǰaىȡaӲȡaΑaݽaASڅܱaMOͧSaTRUEaІCESa݈ސ يݔaΊސ Ίيݔa΁PRטa֔TRUEa΁ІCEaNEGA܈Ίސ Ίيݔaؗ ݳȅӰa۰ ݳȅӰa֎Ǣaͅ٪ ֎a֎ǣׅaͅ٪ ֎ ׅaׇǢa҉ǢaMݰ҈PaѐMITѱ̀JUGˈǓ݃XaҠCALˈaXORaNʭbORaيʰȻARCg݄aծ ԚoORgҢgݶaʹǰbOTǰa۝ǰaͿ ܭa˼ܨaӲǝRMALƲCܾ ځͺȁaىǝRMALƲCܾ ځͺȁaӳځͺȁaيځͺȁaكܪ οSa͓ ԙORoʭaΊۭj׷hҢhݶaPITCHІKaοƅרȬaԅɆaЯɆaޓMݨ ԅkЯaԅưǱЯaЯưǱԅaοȬǱԅmЯmؗm۰a΁ؖEǱοjSUCCEEDǱοa֔ے҉ǣׅlׇǣׅaے҉ǢǱ֓ưhׇǢǱ֓ưaԅƠƱaЯƠƱaؗƠƱa۰ƠƱa֔֎Ǣa΁ͅ AS ֎a֔֎ǣׅa΁ͅ AS ֎ǱοaޏαaMIDԏѢαaݺيͱαaΎيͱαaέȻԜѤqސƙθѤaڷέȻސƙθѤaέɇqךaڷέȻךaέȻݴqݚѤSaͅSȻԜѤoސƙθѤaڷͅSȻސƙθѤaͅSȻךaڷͅSȻךaߒBAGǗڑP" ++
  "aDIʧ܏ȑaάC݃CƖaHוaUPƘa΍ƘaؚJΞҴbERSPΞҴaިԎaӳ̚aي̚aӳϾaيϾa˻ي͋Phӳ͋Paܼي͋Peӳ͋Paك֓ȑaےԧaARCaSEGՍcCܾa܋ȅ͈ͪa؎ǄaVIEWDˆ ۑa؅ǣҠψȑaݓ֓ȑaWˇaHדУaܼӳ͉eي͉a˻ӳ͉hي͉aܼнҟa˻нҟaF٣aSM҅aUPƘ ˪ ݚѣSaOPܱ ӎaER˂ȭܔىaXǃA ض ˽aӎ˷aӻʲaَʲaER˂ȭܔӲaBENߘE ٓaCYLҎRICITYaʟ A١-ؚF҅aSYMՏRYaTOTʑ٧זaDIՌڨ ORҁNàѴȟ׳aSLOPEaCב܏B׆hSINKaAPL ГʑۺI-˞MwSQUҬ ؤwؤ ο#ͽDE#ʹ#JOT#̭w̮Sܬ%JOTwڲƚw˕ڲƚwؤ ڲ#˕ڲ#ԅ#ЯwӾVANEwِVANEwؤ ӿ#ّw̮˕ڲwΑ ݴwͨ Sܬwؤ Ύ̕ET#ͨwΑ JOTwބVANEwؤ ޅwݽ ךwͧ Sܬwؤ ݺ̕ET#ͧwݽ JOTwΔVANEwؤ ΕyOTE ݴwͨ ݴwʹ ݴwJ׍ݴw̮ݴwݺڕE JOTwQݸE ؤw̮۝wؤ ̷wݽ ͯwͧ ͯw۝ ͯwJ׍ͯw̮ͯwΎڕE SܬwӳڕE Sܬwܪ ͯwЯ ͯw̼ƚwͧ ܪwZILDEwSܬ ܪwڂ ݴwؤ ֔ο#ةwΎ̕ωܪwݺ̕ωܪwҨwمwֲwʣ ݴwξ ݴwҨ ݴwֲ ݴwʣa̢֔ǔaيʰȻΔߞƖaSѧLDEظׂ˽aˢLȞaޑȻՔaINڅܱȞàܯUהݳԎȞaͻ̀ܯUהݳԎȞaEM׺ڪȞa̹؎ȞaޱȻ̜ ޑaEN܏ȞaAԨӎȞaHELMȞa̰ѣȻ֓CHi݄ ΍āƢȻ֏ޭƖaUյȞaդۜ˵ȞaHYۡEڪȞaׁ-CIRCUIT-זPUT H-ݣȞuL-ݣȞaP˄Ҵ-Pݯ-΍-זPUTȞnUP-זPUTȞaͺ CURRλ ۺЇȵaۇWARE-ГȞaAPL Гʑۺؤaͥڄ ӎȞaPREVIהPʉaNϜ PʉaPْT ٺȞaCLΛ ٺȞaӵ ހџrϞrԥџaٌ ހџsϞsԥџaӳۓ ހ͉uϞuԥ͉aيۓ ހ͉vϞvԥ͉aӳ͔ ހџtՓ׾tԥџa͔ Ϟaي͔ ހџuՓ׾uԥџaҟ ϞaѢԏϞaށOR Ԧ͔ پgىǱԥӳ͔ پa۱MˍȬPk˺aܼۓa˻ۓvǴܼۓaRADѵۺ˺aӳޏ˽ Ԏaيޏ˽ ԎaѢSCʩԎ-1v3v7v9aͩҰ٩ۺԌގƅܼى;˻ى)޶Ƣx΍ƋȻ̭xUPƋȻ̭xގȻ݄x΍ƋȻ݄xUPƋȻ݄xގƅާx΍ƋȻާxUPƋȻާx΍ƋxUPƋxގƅܼӲ;˻ӲaےЅaREݒȞaEJΞȞaޑ ϞaՏRѵ̀jԛǴڗjڗǴԛjԛǴݚڗSjݚڗSǴԛuҽEDkRҫMEkETR˂MEjײ˂MEaΜ G١aFUSEaܼתa˻תaܼ͔a˻͔aܼܿa˻ܿaޯ݀PEZIUMaBENߘE ٓȻ̭aۨջaϽջaAC CURRλaELΞRѵҢaͥEX؍λȞa˲َΊ݄gӻΊ݄gݾΊ݄gΒΊ݄gَΊ݄ȻސgӻΊ݄Ȼސgَ݄ȻΊސaʔRMƣ֦aۥWˇ" ++
  "aTIՎƣ֦aHדУȻFԢҘSʭa˲Յӻ݄nَ݄nݾ݄nΒ݄aΊސa˴Ƶۥg̭ƵRE͈DaPOWERȞgON-OFFȞiȞgڳȞaOBڅVτϠȞa۹ƵNݯl۞цҗuTϜlιs݁՟nثRYlA̳lˢLl˕ۍlѡȠlԏϨDlގȠlЇ ϨDl̕RIʉȅݒlڒ זrINlDˆ Ԓ EٷmϘַ!ݙ#Ѩ!ЊlնA̳lSYN̫US IDLElθ݁՟Ɲl̋lθՄlۮlEٷlF҅ ڄlGROݺڄlRE͈D ڄlUև ڄlۍlDάTEaBӫKȞaׂ˽a۹ƵսԎlDάTE Їȵlۮ Їȵ𐀚aOCR џeCкeІKeҥІKeˤ BݩLEfOW ܨfRʬH ˘K IDμFѶeAMבTǣ̢dƧeCUۤMτACCבT ֘eΊ˕ڲ𐀖a̰ͷoݙpѨoЊpҴoګpϔoΥoքi֜pήpݖqћpЍqѾpڭqϖpΧpօpݘaשҷͷuݙvѨuЊvҴuګvϔuΥuքo֜vήvݖwћvЍwѾvڭwϖvΧvօvݘaͷ ВgݚВgܟВgЋВhҵВgڬВhϕВgΦВgք Вa֜ Вhή Вhݖ Вiћ ВhЍ ВiѾ Вhڭ Вiϖ ВhΧ Вhօ Вhݘ ВaשҷӯA+B+C+D+E+F+G+H+I+J+K+L+M+N+O+P+Q+R+S+T+U+V+W+X+Y+Za̰Ӯ̑%B%C%D%E%F%G%H%I%J%K%L%M%N%O%P%Q%R%S%T%U%V%W%X%Y%Zoڻ#B#C#D#E#F#G#H#I#J#K#L#M#N#O#P#Q#R#S#T#U#V#W#X#Y#Zi͸aն̰֙ήyݖzћyЍzѾyڭzϖyΧyօyݘaΊ̰ͷvݙwѨvЊwҴvګwϔvΥvքp֜aն̰͸a˽ DRAWҗS ԌѡnыѡnԌގnыގnԌ݇Ƨ ѡnы݇Ƨ ѡnԌ݇Ƨ ގnы݇Ƨ ގnԌئƧ ѡnыئƧ ѡnԌئƧ ގnыئƧ ގnԌ΍Ƒnΐƒъsъƒԋnы΍ƑnԌ΍ƌnΐƍъsъƍԋnы΍ƌnԋȶƑnݼƒъqъƒԋnъȶƑnԋȶƌnݼƍъqъƍԋnъȶƌnԌގƑnޏԋƒъnݻƒΐnΏƒݼnޏъƒԋnΐƒݻnݼƒΏnыގƑnԌގƌnޏԋƍъnݻƍΐnΏƍݼnޏъƍԋnΐƍݻnݼƍΏnыގƌnԌ΍ƋnӳъƒΐnيъƍΐnΐƋ ъsъƋ ԋnيԋƍΏnӳԋƒΏnы΍ƋnԋȶƋnӳъƒݼnيъƍݼnݼƋ ъqъƋ ԋnيԋƍݻnӳԋƒݻnъȶƋnԌގƋnӳъƒޏԋnيъƍޏԋnޏԋƋ ъnݻƅΎѢԋnΏƅݺѢԋnޏъƋ ԋnӳݻƒΐnيݻƍΐnӳΏƒݼnيΏƍݼnΐƅݺѢъnݼƅΎѢъnيԋƍޏъnӳԋƒޏъnыގƋnԌΉƧ ѡnыΉƧ ѡnԌΉƧ ގnыΉƧ ގnΊѡuގpWNȓƒΉsΉƑȓo׏΍ƑpWNȓƍΉsΉƌȓo׏΍ƌnUPȓƒΉqΉƑȓnΉȶƑnUPȓƍΉqΉƌȓnΉȶƌnގȓƒΉwΉƑȓnΊގƑnގȓƍΉwΉƌȓnΊގƌpWNȓƋ ΉsΉƋȓo׏΍ƋnUPȓƋ ΉqΉƋȓnΉȶƋnގȓƋ ΉwΉƋȓnΊގƋnԌʼ΍Ƒ)Ӳx" ++
  "UPƌ&ىtͱހىȯӲ.Ӹى$͌tӲtUPtىt΍nыӲtUPtىt΍nԌӲƅыىtUPƅы΍nыӲƅԌىtUPƅԌ΍aހмƝaԥֹkاƝgܟΩgмƝgFҵΩgܢƝgSϕΩaFݯƝaӳSϕΩfܢƝfFҵΩfмƝfܟΩfּƝfֹaًƝaԌڈEaՆaDARK ڈEaހֹaيֹaإ ԥӲpىjހӲtƎӲƎى&ىyހىƎӲ|ىpىuƎӲ:Ǝىa˴aޱmȻ٢͉Sn͆˲ۂaۑȻѢϯmޏϯmORܝGONʑ͌Hˇ ϯmހӷԦϯsىȯӳϯmͱ͌Hˇ ϯa˲ۂaޯۂa˲ضaޯضa˲ޏضaޯޏضa˲ר֨aޯר֨a˲ݾ݄aޯݾ݄a˲ݾڷ݄aޯݾڷ݄a˲َ݄aޯَ݄a˲َڷ݄aޯَڷ݄a˲َPOҠaޯَPOҠa˲Β݄aޯΒ݄a˲Βڷ݄aޯΒڷ݄a˲ӻ݄aޯӻ݄a˲ӻڷ݄aޯӻڷ݄a˲ӻPOҠaޯӻPOҠa˲ʹaޯʹn ͆˲ڷʹaϷϠaԧaްa·Ƣa̭ȻޏϯaBݯSϠa˱Ƣa̭Ɏоmيоmԥоmހоsيإ ˱mʟ ̈ ށإ ˱aӳоƢaيоƢaҤ̆iްaހнҤްaԥнҤްaށإ ̱ARCgيإ ̱ARCaԦإ ̱ARCgӳإ ̱ARCaހмƢaԥмƢa˲Ԧ݄mӳ݄gށ݄mي݄aޯ̆aۑɎоmيоmށͱоmԦͱоaޱȻޏBISΞҘԎgݾ݄Ɇaݾ݄Ɏо!يоaӬƢaޱȻށإsԥӳإyيإsހيإg̭Ȼށإsԥӳإyيإsހيإaށ݄gي݄aԥӳ݄aޯՅۑa˲ՅۑaޯՅۂa˲ՅۂaԦ݄a˲۲ȻRAYSaCLOUDaݲaS֖ԶaCOՏa˲۝aޯ۝aԋNҗaTHݳSܾMa۲aASCηҗǝDEaͫCηҗǝDEàJUNCܱaOP؎a˲܋aޯ܋a˗׍˽kȻ̢qXaٰaݲȻخ DROPSaH׍BEލʉaޯږa˲ږaSпR֦aكٝЀʑш ̆a˲ӲȀgىȀaޯӲȀgUPȀgىȀg΍ȀaSKݯƅ͌BOպaCAUܱȑaRADIOACTҴȑaBIOHAZʾȑaCADUCEUSaANKHaORܝDOX ͌a̧ مa͌ǣLORخEjJERUSʖMa۝ƅ͊aϦ۹aADI ڇKTIaпՎƅSѸLEa׮CEȞaYIN Yʮa݃ЪƵщmLʐmϵmTHݳm޵mަmMגmΜaWюǣDфMAaޯF٣ҙgۄƳa˲ۄƳaޯ۲ȻRAYSaFIRۛaLAۛaՎCURYaFEԴaΜaԴaJUPI܏aSAݒaURANUSaNEPTUNEaPԫOaAهSa܅RUSaКIaCAճRaLEOaVIRGOaLIBRAaS͈PIUSbAGIT܃IUSaCAPRI͈NaAQUARIUSaPISCESaޯ̤Ӗmبmٜm˯mӜm׭a˲̤Ӗmبmٜm˯mӜm׭gSPʈȝaޯшȝgʹȝa˱ƣUBȝaޯSPʈȝa˲шȝgʹȝaޯCLUBȝaH׍SPٓSaاǟaΨǟa˞MΟΨǟShڮǟSaMUSѳϽȑgNAݑʓgڌPȑaޭ ۻ ͌aEAST ۻ ͌aUNIލSʑصYCԑȞaصYCԑȞƵݣ-1Ƿ!2Ƿ!3Ƿ!4Ƿ!5Ƿ!6Ƿ!7ǷvGEչICǓ܏IALSa˲UNIލ" ++
  "SʑصYCԑȞaصYCLEDǵ׳Ȟa׫IʟY-صYCLEDǵ׳ȞbERԶλǵ׳ȑaWюCкȞaDIEƳ-1j2j3j4j5j6aްɆ ىsݛa˱ƢȻޯD׍ىsݙȹƬSaգ֨ƵYʮoINaDIЪƵЮτYʮlLχτYINtʮlЮτYINaޯϼa˲ϼaпՎƅPѸaʬѠa͍S޺DSaۜFFǣAESCݮPIUSbCʖSaʖMBICaЂaGΛaۜFFǣѐMESaˏMȞaFLEUR-DE-LISaחޯ۝aܟԎS ̀ލGҘىxӲaWARNҗȑaіVOLTʉȑaΉD FEԴiԴaҠL֦ΟϪƅԴaMʖƅFEԴeɚȑqƅMʖƅFEԴaޏMʖɚȑaѢMʖɚȑaՅްh˱ƢhڷްbARRIʉȞaDIVORCEȞaUNԹRIΟ׫չڑPȞaCOFFINaFUչʑURNaNEU܏aCEؾaPʠSaJUNOaVEۜa̧ٛa˲ե LIԔHaSEXܬcMҫXܬaثNCUNXaSESثؤRˈbOCCτ˗aB˂˗a۔ ӎaޯDRAUGHTS ԶpӖa˲DRAUGHTS ԶpӖaS֖Է޷S֖bUN ˡҎƣOUDaخa˲S֖ԶaTHݳƣOUDƅخaݓޯږh˲ږaޯʹǃۑa͎LAպaͻABLΟ̕aO׻ݨUSaPѸa̕ SLIDҗaHELՏȻޯ͌a̰͎LAպbHʍSa֌λRYaʤַ-ޫa˱ȵ-ޫaޯݙ-ޫa˲ӳӫE ՎGEaޯӳӫE ՎGEaDRҵSԢȑaыޯΒ݄aӳ̶λRYa۔ ٰaϥͰǃްǃ˴a˲TRݩaؾ݃C܈ӳλRY-1w2aASTٛOMѴȞƵURANUSaъƢɚƅݜaײAЪaى-тΟҠLACΟײAЪaӲ-тΟҠLACΟײAЪaҥײAЪa˲͌ǬڑELDaڔTO SHRҔaCѬCHbASܳaHISܾѳSITEaGΛ ޷HUBj тLESaMAPȞƵԋHוbגaݲǬG١aFגbӣǃHOLEbERRYaSʌB֤aےЋ͉SbKIERaѷ SKˈa׸Ȼ˗aTλaҹ ˘KȞaцSܶЬYʾȞaFUEL PUMPaCUPǬ˴aޯϼȻѢՓ˲S݃PEa˲SAFETY ٹaހBLʈ ٹa˲ٹaԥBLʈ ٹaޯٹgы̢ǔa܋ LOCˍȑbAPE DRҴaʏaνaدFҰhтaVICTO٩тaWٙҚaԦױCILaױCILaހيױCILaޯNIBa˲NIBa̢ǔaы̢ǔaժ Xaыժ Xa˗׍Xaы˗׍Xaחбaыбaׂ̜ ͌aыׂ̜ ͌aӮ͌aڊޯӮ͌aחӮ͌aMALTESE ͌a۝ǣDAVIDaЋ܇˅f˗׀ɮaыЋ˗׀ɮaЊƣUBɮa˲Њǻ۝aޯЊǻ۝aێSbTRχ חޯ۝a̰ޯ۝aׂ̜ ˲۝a˲̜ ޯ۝aח˲۝aыח˲۝a؃۝aڊޯ۝aы˅aׂ̜ ˅aΥȗfǼo؃۝aګǼaΥǻRΞIԐ˲۝aыΥǻRΞIԐ˲۝aݖǼaڭǻ˅a܇˅aׂ̜ ܇˅aы܇˅aڬPETʟΟ˱ƅޯЀώa˲ЀώaޯЀώaΦPETʟΟח˲Ѐώaׂ̰̜ Υǻ۝aы܇؃˅aۆaTҀ ݃FOLIˉۆaы̡VRִۆaێaыێa˗׀ɮaΦ܇ؚPELLτ˅aыΦ܇ؚPE" ++
  "LLτ˅a͌ǔaڊްaն۔ ͌ǔaԦDROP-ڊޱaހيDROP-ڊޱaԦڊޱaހيڊޱa˲تǳaޯتǳgϛǳa˲ʹ ՝ ޯXaыϛȞaԌސaՅސaыސgڧݓ̽n̽gΊݓ̽n̽gԣڧ̽kΊ̽a͖۠ צȑǳaыϛǳgш ϛǳg˲шaٝы˲ш ̆aЀʑшaٝЀʑш ̆aՅӵǳhٌǳhϽ܍ΟӵǳrٌǳhӻʲǳhَʲǳaыӻʰȃǳgَʰȃǳgӻʲǳgَʲǳaԌӳܿǳgيܿǳaՅӳ͔ǳhي͔ǳaDҗBAT ն̰ͷ(ݙ)Ѩ(Њ)Ҵ(ګ)ϔ(Υ(քz֜ḭٴ ͷ+ݙ.Ѩ+Њ.Ҵ+ګ.ϔ+Υ+ք#֜iն̰ٴ ͷ[ݙ]Ѩ[Њ]Ҵ[ګ]ϔ[Υ[ք;֜aыWѹ-цΟّg؈g՞gͿȑgۋgّg֑aDRAFTҘ؊ ّaы١-TIّؔa݄-цΟّaъȱ ّaDAڍDȱ ّaъƧEDȱ ّa˲ّaܞ-DȬPɩُƘi˺ɩُƘa˲ُƘaы˲͖ΓƅّtރƅّaSQUAT ˲ّaы̀CAVE-؊Ο˲ّaى-ڈΟޯّaӲ-ڈΟޯّa˕ɰّaFٛTɰّaыԥى-ڊޯّgހى-ڊޯّa֕ԥى-ڊޯّa͓ ԟa֕ހى-ڊޯّa̰ыޯّaWHITEɦّa˱ɦۋqّq֑aы˱ɦۋwّw֑aTEʾROP-˙BΟّaъȣʾROP-ڇNKΟّaWEDGE-܀ΟّaыWEDGE-܀Οّaׁ-חّaΊ͓ ԟaܟDIՌڨʑʰaޯ݄ ͆ڷޯ݄a׳PηICݮRaׂۭh׷aӳSɬΟBAGƨԍI܏aيSɬΟBAGƨԍI܏aORɆ ҝaق ؖҘۭaSU׷ ؖҘۈaސȻѤaԻ ٘ͰaԜͿaԻ ϥͰa۔ ԚqORaޯʹȻ̜DƬaʭɆaέ ׁҘރaԦ͉Ɇaށ͉ɆaӳזτҽaيזτҽaFݯ זτҽaӭݽgΑaӲƒΊݔoȡfMݰ҈PaԜىȡfӲȡaݽȻ̭Ɓaԧ ͽDΟ̉ѢRULEaޯ̀CAVE-ڝD ʹ#ȻӾܧ+ِܧgۑȻӾܧsِܧaԻ ӺۓnٍۓnӳʲnيʲnӳΊʲnيΊʲnӺܿnٍܿnӳϽ܍ΟתnيϽ܍ΟתaބئƖaΔئƖaʷ GA̯ؔa̴ GA̯ؔaىƗ̰؇aԜӿfّfӶƖfӽƯfُƯfӶƯfӿƸfّƸfӽƯƸfُƯƸqەaBRA҇EǵT܏N BӫK𐄀aِݢޒ+ΊޒaӽƯȻޒaُƯȻޒaӶƯȻޒaُȵ-цΠƸaӽƯƸaُƯƸaΓƗѤaރƗѤi݇ƖaΔ݇ƖaӾΉƧƖaِΉƧƖaӾ݇ƧƖaِ݇ƧƖmWO-цΟ݇ƧƖkƗΈ۠aޅȮaΕȮaّɛȻޒ)Ίޒlݢ܀<Ȼޒ]Ίޒaӿ-܀aّ-܀aӽƯ-܀aُƯ-܀aӿȭ˲ʹaّȭ˲ʹaӿƸȭ˲ʹaّƸȭ˲ʹa֒ƅۋa֐ƅیƖgޭƖɊa֑ɊaۋɊgޭƖɊa֒Ɩƅ֑a֑ƅۋaۋƅیƖgޭƖƅ֒Ɩa٘ͱ͎ϥͰaϥͱ͎٘Ͱaۋ ͎֑a֑ ͎ۋaϥͱ͎֑a٘ͱ͎ۋa֑ ͎֒ƖgޭƖ ͎֑aާƖǽͺLY ىaˀǽِܕރ>ΓpΔܕӽ=ُaى-ڝ ʼ̴ƖaӲ-ڝ ʼʷƖaܼʼʷƖa˻ʼʷƖaܼʼ̴Ɨ՝iʷƗ؇aԦځ̴̱Ɩgӳځ̱ʷƖaʷ ̶̯a̴ ̶̯aّƂژӿaӿƂژّaژّƂӿaُƗ؇ƜaӽƗ؇ƜaّȧXaӶ" ++
  "ƖȧڶƢaރȵ-цΠƷȔƢaӳ˚ݺي˚΍ƽkΎي˚UPƽaݺ˚يΎ˚ӲƽiӳΎ˚ىƽaӳ˚ݺي˚UPƽaݺ˚يΎ˚ىƽaӳ˚Ύي˚΍ƽaݺ˚ӳΎ˚ӲƽaӽƾUPȮaُƾUPȮaރƾىȮaΓƾىȮaӽƾ΍Ȯaُƾ΍ȮaރƾӲȮaΓƾӲȮaӽƾUPƸaُƾUPƸaރƾىƸaΓƾىƸaӽƾ΍Ƹaُƾ΍ƸaރƾӲƸaΓƾӲƸaӽƾUPƂӽƾ΍aރƾӳ˧ރƾىaُƾUPƂُƾ΍aΓƾӳ˧ΓƾىaӽƾUPƂُƾUP$΍Ƃُƾ΍aُƾUPƂӽƾUP%΍Ƃӽƾ΍aӽƾUPƂԛƧ$΍Ɯ ԛƧaُƾUPƂԛƧ%΍Ɯ ԛƧaރƾӳ˧ΓƾىaΓƾӳ˧ރƾىaىƯȻ٢цaπƂّaܫƂّaӿƂܫaّƂܫxʡaԅƂӿaӿȧԅaЯƂّaۭƂّaӿȧۭaSU׷ƂӿaӳϷ ܀aيϷ ܀aݺϷ ܀aΎϷ ܀a݈ސƨԍI܏aߒSPOTlݣ ̷aӺ͔aٍ͔aӺתaٍתaߒӳ҉ƞlي҉ƞlӳBҎҗƞlيBҎҗƞaӳۓȻݴaيۓȻݴaӳۓȻܧǃܼ͉aيۓȻܧǃ˻͉aӳۓȻܧǃ˻͉aيۓȻܧǃܼ͉aӳʲɆaيʲɆaӳʼԅƞaيʼЯƞaΊӳʼЯƞhيʼԅƞaӳ˲ܿaي˲ܿaΈFεaޏߞ ԎaՀΟʱׁҘӲaيʱފNTȻۑaՀΟيʰɆaʰȻS ҝaʆ ʰaSPѐѵʱׁҘӲyUPaݓʰaكʰaʰȻݴaكʰȻݴa֥ʱׁҗȶw΍aՀΟʰȻׂARM ηҗǃˀǽUPƑĽӲĶ΍ƑĿӲĶىƅUPĶӲƅUPĶىƅ΍ĶӲƅ΍aكγچaγچȻךpڶƢƁpىƖƁpӲƖƁa̭ȻѣgD ސiרiقi׳PηICݮRg ͽDΟ̉ѣƅܼнͽDΟ̉ސh޶ț׳IMPOSΟXgD ʷ-ٝͿȑaUPƖȧ̭a̰ޯ̆ĭiԅiЯgȻڶƢȭܔىmݚѤSȭܔىa۔ ٘ͱڲiϥͱڲi˅iڶƢiۑaݚҽΟۑSa݄ɇoݴaSǃ݄a݄əSƙ˺aي݄Ƃӳ݄aӳ݄ ˧ސaސ ˧ي݄a˼ܨɎоmيоa˲˼ܨaܭɎоlيоaޯHדУa˲HדУaӳ޳Fεaي޳FεaӳΊ޳FεaيΊ޳FεaIN̹؆TE ҕaܨǴҕaҕ NEGˈDȻސaΉ-ηΟMݰ҈PaۑȻ̀TOUظזԎaҍ٪aڛFFLEȁaπƅڱ ר)ȻܪƁaIͩѴȬƅڱ רaGLEICH ۝KaܖMODYNAMICaΒ݄Ɏо$يоa˲ʹȻ΍ƖgԧaްȻ΍Ɩa˱ƢȻ΍ƖaERROR-˛ޱn˴nޯʹn˲ʹnްn˱ƢaRULE-DΫYEDaقǰaۈȻךaقȻѤaBIG ۈeقaΊ؇a݈؇aӻ͖ʲaَ͖ʲaܯYa՜Yaծ ̰΃ǰo؇ǰoܭǰgݶǰɆ!؇gےҢǰnݶǰaݚԚǰmORǰaծ ܭǰaMODULO ݚ۱a۱MˍȻҟaئ ҟǰaFIևE ׫ ҟaҟȻΉșjAލAGΙڲaCIRCUӰ Гaʷ INTEGRˍaԏINTEGRˍȻRΞʮݮR Pˊ A١ ،Ewځ̱Pˊ A١ ،Er֔INCLUDҘܔ،Eaҟ A١ A ؊ǰaQUA܏NIִҟǰaҟȻӿɊoܭȑoҢoݶoךoݴaҽaӭӳ݄ǰaߒS̡MA ̹؎sPI؂tROJECܱa؈" ++
  "ȻڶƢƁp̲ƄƁpܪƁp΅pܪƜp۬ݙp˲݄a՞Ȼ̼Ɓq΅qϥ΃Sq٘΃Sa؈ǃӴ̭nًƢaVECܾǱ͌ȁaժȑɇzݴaځͺȁȻ˻̵EDbM˃ȁaժȑǃӴ̭xًƢa̰ժȑȿƄaժȑǃΉƢa̰Ϳȑa؈ǃ݄a՞ǃ݄aժȑǃ݄aҠIORȁaىт ҠIORȁaߒREӰʑ̹؎aʦLGAMˍǱCOؚDUCTaҢɆaݶȻ՞lךaҢȻךsԚaݶȻԙORfƂҢaҢƂݶaݶƁƚƂҢaҢƁƚƂݶaݶ ˧ʭ ҽEDȻݶaҢ ˧ʭ ҽEDȻҢa̶ݶəShҢəSaΊےҢoݶa̶ݶəSƅSM˃ȁaԚɇiORɇaΊԚpORaݚҠSΞҘԚzORaSLOPҘӭORoʭaԙOR כPPҘԚiʭȻՓ۠iORȻՓ۠iʭȻѡƧiORȻѡƧiʭȻΊךrݴrΊݴaۃEΙݴaԙORȻΊךxݴaߒDOMʍ ʶؾ݃Cܱlزʶؾ݃CܱaπɈaIͩѴɇa݈ѣȻΊޒ#݈ޒaܫɇu٘΃Saڥ ՝ ڥaCֽRUλɇaοSȻ˅aʡȿƄbؕLY ο ׅaπƂ؈a؈ƂπaπƂܫaΊ̷ οaݚ̀SECUTҵπSaܟ̀SECUTҵπSaπȻݜƅݝdIVALλȻЊƮaԅȻ̮ҝaЯȻ̮ҝaԅȻتƁaЯȻتƁaԅǲaЯǲaԅǲɆ ҝaЯǲɆ ҝaԅǲɇaЯǲɇaԅǲɇ ىaЯǲɇ ӲaԅǱAؕaЯǱAؕaԅƅڦ-ԎǞưaЯƅڦ-ԎǞưaԅƅ֔AؕaЯƅ֔AؕaԅƂΉ-ԏοƂЯaЯƂΉ-ԏοƂԅaԅƂڥǱοaЯƂڥǱοaԅƂڥƂЯaЯƂڥƂԅaԅƂЯƂΉ-ԏοaЯƂԅƂΉ-ԏοaԅƃƂЯƃaЯƃƂԅƃaڱưǱԅuЯuԅɆ ҝuЯɆ ҝaΉ-ԎưǱԅyЯmڱưǱԅ)ЯaڥǱԅlЯhƂԅƂπoЯƂπaΊպ܈ԅoЯoԅȻݴaЯ כPPҘԅn˧ԅaԅ ̶͕̉aЯ ̶͕̉aԅ ̶͕̉ƃaЯ ̶͕̉ƃaڶτܑNaӬR ܑNaڶτTHʩׅaӬR THʩׅaπȻBUMPYƁaؗƁȓ-ԏπa۰Ɓȓ-ԏπaؗƁȓ-ԎǞưa۰Ɓȓ-ԎǞưaؗƂπa۰ƂπaؗƁǞưa۰ƁǞưaؗƂʡa۰ƂʡaؗƂ֔ʡa۰Ƃ֔ʡaΊؗh۰aۭɆc׷ɆaۭȻ؈Ɯc׷Ȼ؈ƜaۭȻժȑƜc׷ȻժȑƜaۭǣׅɇc׷ǣׅɇaۭǢƂπc׷ǢƂπaۭǢƂܫc׷ǢƂܫaۭǢƂʡc׷ǢƂʡaۭǢƁǞưc׷ǢƁǞưaےӳׂ˽ǰhيׂ˽ǰa̶ۭj׷hۭ ׅj׷ ׅaۭƁț׷c׷ƂۭaۭƂۭc׷Ɓț׷j˧ۭpƅҽΟBYƧȻۭaέ ׁҘΓaPITCHІKȻTEEȬPa݁ލSʑҢaІӖaNONІӖaژӲȡgΑgݽa׳PηI͒޶ Saސ ݈يݔaΊސ ӳݔaސ ΊӳݔaΊސ ΊӳݔaԛƧƷ ӲǗǣΊގaژΑȻךgݽȻݴnƂژΑaΊΑhݽh۩ǞȑaكΉșǞȑa΁ͽDΙكNEGˍ ڲaޑȻ̭Ɓ!ˣaΑȻ̭ƜaרȻѤoܫa݈ސ BIհYȅӰtȻѤh̷ǰhպ܈ԅoЯaΉ-ԏڱ ԅ ׅuЯ ׅa݈ۈ BIհYȅӰaӭ݈ސǰaΊۈǰaޯސaծ ޯސa֐ȺgޭȺaۊȺgޭȺaӶȺaӾ˳aބ˳aΔ˳a֐ ˳gޭ ˳aۊ ˳g" ++
  "ޭ ˳aӶ ˳aݺΎ˳aُƗܲΓ!ރaӽƗܲΓzރaۑȻܼоm˻оmހيͱоmԥӳͱоaʹɎоnيоnܼоn˻оaΈۑa˲ӭۑaޯӭۑa˲ޓۂaޯޓۂa˲ײʊaޯײʊgHEXʊa˲HEXʊaѢ˲HEXʊa˲ӬƢgՅʹaޯՅʹa˲ՅԧaޯՅԧa˲ڷʹmԧaޯڷԧa˲ѢΰEaޯѢΰEa˲ޏΰEaޯޏΰEaӲƗڶƢaܟӿSaӲƗ̰؇aԜӾەaӾݢޒ)Ίޒ!Ƹv݇ƧƖjƗΈ۠v܀Ȼޒ(Ίޒkݢ܀;Ȼޒ[ΊޒkˀȧXaާƖǽͺLY ӲaπƂӿaف ܫƂӿaӿƂف ʡaّȧЯzSU׷aӾئƖaِئƖaف ܫƂّaّƂف ʡaܫƂӿaӿƂʡwف ܫaّƂف ܫaΓȱ ߞƖaژڱ ֏Ɩg˕ڱ ۉƖaޯՅ۝a˲ڷ۝aޯڷ۝a˲َײʊaޯَײʊaыӬƢgOVAӡOVʑҝg̭Ȼ̮ҝmmD ٰaڱ ֏ƖɊΟцa˕ڱ ۉƖɊΟ܀aڱ ֏ƗѢ܀a˕ڱ ۉƗѢ܀bλƖǽΔTHδ֐aژ˥ƖǽΔTHδ֐aӽȲaރȲaُȲaΓȲaӶȲaݺ΍Ȳa֒Ȳa֐ȲaۊȲgޭȲaӽȱƧΠaރȱƧΠaُȱƧΠaΓȱƧΠa̴ȱ ׂ̯aʷȱ ׂ̯aӽȲȮaރȲȮaُȲȮaΓȲȮ𐀃a֒ȲȮa֐ȲȮaۊȲȮgޭȲȮaӽȳΊѤaރȳΊѤaُȳΊѤaΓȳΊѤaѢ۽ ӎaޏ۽ ӎaӽȲǴُȲaރȲ ӽǣΓȲaُȲǴӽȲaΓȲ ӽǣރȲaӽȱǶaރȱǶaُȱǶaΓȱǶaӾ˱ƢDȺaބ˱ƢDȺaِ˱ƢDȺaΔ˱ƢDȺaʷȱ يUɬΠ&˻UɬΠ&ӳUɬΠ&ܼUɬΠaREݒ ӲhىaսԏӲiىaЋ͉ƖS CIRCLҘʷaِ˳𐀂a۹Ƶݣ A ELΞٛICSaܞ-DȬPɩӾσiىɩބσiTOPɩِσiӲɩΔσa˲ӾσgބσgِσgΔσaΓȳԜܲӽ|ُaރȳԜܲӽ^ُaӽȳԜܲރaُȳԜܲރaӽȳԜܲΓaُȳԜܲΓa˲͖Γƅӿ#ّnރƅӿzّnӽƅޅnُƅޅnӽƅΕnُƅΕaنƖ ΎӲsىnݺӲqىnӲȶnىȶnӳ΍nي΍aރȺƸȻѣcƘǃA ض ˽aכPPҘޱSrƅ˴Sm˴Sa˗׍˽ȻԌXa̰Xi˸Xa˴ ̜Dgʹ ̜Daݓ˲ײʊaѢ˲OCTʊa˲OCTʊgՅݾ݄ ̜DnΒ݄ ̜Dnӻ݄ ̜Dnَ݄ ̜DaNEPTUNE ЇȵaܼоƢa˻оƢaԌЊǻ˲͗PaٝԌЊǻ˲͗PaޯЊǻ͗PaٝޯЊǻ͗Paے؎ǄaUճRTʍTYȑaGROUPǔaPԫO ЇȵmѨlЊmҴa݁PԫOaؚڅ؁AaAۧEAaHYGIEAa׽LUSaջUSaޯե SάNAa˲ʹǬ͌aTRUE Ԍե ARTAaCUPIDOaHAͫaZEUSaKٛOSaAPֱONbDՏOSaVULCANUSaPOSEIDONaӴ˲۝aيо ۝a۝ɎоkيоaӾݢ݅Saބݢ݅Saِݢ݅SaΔݢ݅SaERIS ЇǯkݙaSEDNAaRUSSѱAS݉ԙۺVҁNܬ$NOV҅$ثNܬ$BINOV҅$Sλʊ$TطEC҅aπȻҕƜaUNI܈۹aSEץ܈۹aΉDȞaP˄EDȞaكيʰaHELLSCHR" ++
  "EI˦ǵUSEȞaТܦ̑ZU!BUKY!VEDE!Т!DÕ!YψU!ZHҴTE!DZβ!ZEMLJA!Iߜ!қIߜ#!΀I!ӄO!ԗ!խ!NAڑ!ONU!POKOJI!ٙSI!SLOVO!ݕ!ݭ!FٙU!ѐU!OTU!PE!Sѩ!TSI!̪!ڇ!߉%I#ˌ!SPIͪYƼ!YU!ڶɡ:ɛ!YO!Ҩ܈ڶɡ!˭!Ҩ܈˭!Fұ!Iߝ݋!SѩPIC!݉KUTAۣ A!LAܯˉխ!CAUDˉ̪lڻZUyBUKYyVEDEyТyDÕyYψUyZHҴTEyDZβyZEMLJAyIߜyқIߜzy΀IyӄOyԗyխyNAڑyONUyPOKOJIyٙSIySLOVOyݕyݭyFٙUyѐUyOTUyPEySѩyTSIy̪yڇy߉#IzˌySPIͪYƼyYUyڶɡ+ɛyYOyҨ܈ڶɡy˭yҨ܈˭yFұyIߝ݋ySѩPICy݉KUTAۣ AyLAܯˉխyCAUDˉ̪aӮ̐ӡΉƚgںӡΉƚg̐LɒvPɚvRɛgڻɚtTɅg̐HɃgںHɃg̐KɃgںKɃg̐ZɃgںZɃg̐ʣvMɊvݓA$ʣgںVȻيџg̐WɊgںWɊtVɁg̐нHgںнHt܀Lχ ׻tΙ֓CHtݓRɛlǐԣٔҝgԇݓEg۬ںJaբ̏VaӮ̐SȻ۶܀vZȻ۶܀a͇ܦ̑LFAhڻLFAh̐VIDAhںVIDAh̐ЕhںЕh̐͜DAhں͜DAh̒IEhڽIEh̐SOUhڿOUh̐ZˆhںZˆh̐HˈhںHˈh̐TёEhۀёEh̐IAݪhںIAݪh̎ǏPAhڶǏPAh̐LAݮhںLAݮh̐MIhںMIh̐NIhںNIh̐KSIhںKSIh̐OhںOh̐PIhںPIh̐ROhںROh̐S҈hڿ҈h̐܅hں܅h̐UAhںUAh̐FIhںFIh̐KHIhںKHIh̐؜hں؜h̐OOUhںOOUh̐ͲʗhںͲʗh֭̐ʍhں֭ʍh̐͏ EIEhں͏ EIEh̐ͲKAPAhںͲKAPAh̐ͲNIhںͲNIh̐͏ NIhں͏ NIh֭̐OOUhں֭OOUh̐ٲhںٲh͍̐ڍIhں͍ڍIh֭̐ڍIhں֭ڍIh֭̐υhں֭υh̑KHMIMѳӔhڻKHMIMѳӔh̐ͲѠIhںͲѠIh֭̐ѠIhں֭ѠIh֭̐HAhں֭HAh̐LɬEDƼhںLɬEDƼh֭̐HEIhں֭HEIh֭̐HAThں֭HATh֭̐Иhں֭Иh֭̐DJAhں֭DJAh֭̐ړhں֭ړh֮̐ړhں֮ړh֮̐NGIhں֮NGIh֮̐֡hں֮֡h֮̐WAUhں֮WAUh۹ǇIoMIȇoPIȇoS܅ROSo܅ȇoKHIȇoړ S҈h̐͏ ڍIhں͏ ڍIh̐͏ Иhں͏ Иh̻NIƁrېITU٪׳!LENISh̐BOкѳӔhںBOкѳӔ𐀆h֮Вsͺ تsINͺ تsލSE ;hЏֺhВhMOR׽ԙ;aЛڻNw˘wЖwDONwENwVINwߘw܂wINwӅwLASwԶwհwONwפwZфwحwٳw܃wUNwPфwKфwНNwQARwڔw̧NxANwJILwCILxфwXANwҼNwHAE"

def namePart3 : String :=
  "xExIEwWEwфxOE𐀂wYN𐀆wAEN𐀃aTIFINAGHǌYAsBtHsGtHHq˦BτACʈMY YAJqYAJsDtHtDuHrEYrAFsKqTݦKqYAKHHsHq˦BτACʈMY YAHqTݦHqYAHHsAsKHqTݦKHqYAQqTݦQqYIrAZHqAHAGЙ YAZHqTݦZHqYALsMsNqTݦGNzNGqYAPrUrARtRsGHqTݦGHqAYτYAGHqYAStStHsTtHsCHsTTsVsWsYsZq܆ELLEMωYAZqYAZZrErO𐀈jբӢIʜZˎjڄǔ𐀏j͂ Ҿaό۸LOAsMOAsROAsSOAtHOAsBOAsTOAsCOAsNOAtYOAsФOAsZOAsDOAtDOAsJOAsܝAs̨As׽AtOAsGGWAvIvEEw𐀊sۖuUuIuAAuEEvuO𐀂sCCAuUuIuAAuEEvuO𐀂sZZAuUuIuAAuEEvuO𐀂sC̞vUvIvAAvEEwvO𐀂sQYAuUuIuAAuEEvuO𐀂sKYAuUuIuAAuEEvuO𐀂sXYAuUuIuAAuEEvuO𐀂sGYAuUuIuAAuEEvuO𐀂a̻͘ǌBE!VE!П!DE!ߜ#E!KA!EL#M#N!O!PE!ER#S!TE!HA!݌!̡!ڇ$̞!Fұ!ES-TE!A!IE!΀!դЫ UK!YAT#U!ҩA!Ԗ!˭!ҩ˭aيʱۯǔERmΈۯǔERaӳۯƞaيۯƞaӳΈۯƞaيΈۯƞaدҠ،ˎERhΈҠ،ˎERaΈ݁؎ǔERaӳ݁؎ƞaي݁؎ƞaدۑaӳدO՟ƞaيدO՟ƞaEDIܾѰCOٛISaצOSaІKΟצOSaكІKΟצOSaHYPOͮۤLEaΈOBβSaΔAN͈AaބAN͈AaΈَʰb׏֥ѮaҥҡaןM BRʬHaѮɄaܪȻٕaӳԣץPHR˂ƞaيԣץPHR˂ƞaܪɇpˣaӳސȻQU҇aيސȻQU҇aܼӳмƞeًƞa˻ӳмƞhًƞaӳڞUƞaيڞUƞaӳΊתaيΊתaݛǴַƭaַƬǴݛ ءa۔ ЊƭaϹƬǔaكتaޏܪaٔ؊a޻ڄ Քaݓ̼aد΃h̼aݓڂa͚МɎгmيгaݓ͚МaܼнپȑbWO-EMƧbѨ-EMƧaS܍OЫѳВaޏګƬSa޳ޑaCAPITUԩaΊѮaك̼aΊԢ-فD-9ȃb˃ɎUPݒb׏SUSױڨǔaҥԢǇޢtȻKAޢƁaԢǇޢkɆaΊۜCKΟ̼aΈۈa݈͚МaՁIEVʑ̼aצUSǔbUNCTUS άVATUSǔa͈NҬ ލSE ;a͌ǵTT޾ي͌˙rӳ͌˙aTIٛѱڠ̏ETaՁIEVʑϛjتaӳۓɚaيۓɚaӳۓȻΉșaيۓȻΉșaܼнӵjٌa˻нӵmٌa֥Ѯ𐀣aCJKȄDѴȅPΝmCLIFFmٽǯtݙuѨm׸m˽mTA˵mӛǯsݙmͽNˍmSEALmڶǯsݙmLʧǯrݙsѨrЊmSNʐmTHشmSNזǯsݙmшǯsݙnʭmRAP𐀂m̨KEm۲mեmDEˊmMOܖmCIVILIANmަǯsݙmϵmPAWǯqݙmSҋн݂ " ++
  "T٧KmCOWmDOGmJʈmBOLTǢƣ׎mϠmېITǯtݙmBAM˹mSILKm̊SILKmNETǯqݙrѨqЊmMυmSэPmرmEWEm֫mBRއǯsݙmMΝnOR܃mGR˄ǯsݙtѨmTIМmCLOܓSmޭǯrݙm̊SEEmSҋѥmѥm̊ۏzڏmЅm̊̕TmSҋWALKmWALKǯrݙmCITYm̊G֫mԛǯrݙm̊ԛzGˈmMבDǯsݙmخm˶m̊܂NEDǋAܖzӱz޵zFLYmΝǯqݙrѨm̊Νmцm̊ѦmBַmGHOSTm̊ϷzBIRDzٯmSҋWHΝxYELԢm̊FROGmJ-Sҋϔm̊ϔmJ-SҋTO׎m̊TO׎mJ-SҋΗm̊ΗmݑܳmJ-Sҋݑܳm̊ݑܳ𐀍aKʮXIȄDѴǯpԎp΃pڲpٽpџpݙpLIDpԶpԀSpEN܏qҀpΎ˽pCיpѷpTA˵pׂ˽pӛpPOWERpWRAPpSP׀pيׂ˽pHIDҘζREp܍pͽNˍpSEALpCLIFFpPRIVˈpAGʍpզpζREpΜpS̨LARpGOr SԢLYpϔҗpBIGp޸p̧LDpROOFpINCHpڶpLʧp͈PSEpSPRזpMגpRIލp޺KpOպELFpݑ˘pDRYpژTHشp·ƣIFFpԜۦѹpݚтSpSўTp˼pSNזpBRISܳp۟PpшqAL˦DpDOORpтpBRʬHpRAPpSCRIPTpDIP׳pAXEpۑp֓p۲qAYpեp݂pLACKpۥpDEˊpWEA؍pDOǞp̹פEpFURpCӫp۟AMpަpϵpCLAWpFAܖpΊXpн݂ T٧KpSLѷpFʮpCOWpDOGpؚFבDpJʈpMβNpܬpSWEETpLIFEpUSEpFIELDpBOLTǢƣ׎pSѸջpΈTλoȹpSKINpͼpϠpSPΛpˀpSܵqPIٙp݀CKpGخpCAVEpSTʭpBAM˹pRѷpSILKpJARpNETpSэPpFEAܖp֫pʭpPԢpΛpBRއpMΝqINIۡpSELFpARRҴpMOR܃pܺpOPPOSEpB֤pۥ؂pCOLORpGR˄pTIМpINSΞpBL־pWALK ζREpCLOܓSpޭpSEEpѥpۏpVʟEYp˞NpPIGp˖МpڏpطqUNpЅpBODYp̕Tp˰܏pMORNҗpWALKpCITYpWҔpͻܰUҬpV҇ʉpG֫pԛpGˈpMבDpSLAVEpژ܀ΟBIRDpخp˶pWRֽpϣpLEAܖp܂NEDǋAܖpLEEKoȕpӱp޵pFLYpΝpцpFRAGRʴpѦpBַpTʟpкpFҀpSACRIFICѰWҔpCAULDٛpGHOSTpϷpBIRDpٯpͦRpWHΝpHEMPpYELԢpM҇ETp˱pEM̃IͪYpFROGp݃PODpD٦pRATpNOSEpϔpTO׎pΗpݑܳpFԫE𐀛aѻͫCRIPܱ ̟ ӷى+ƁȬƜ.ӷՒƑ+ƁȭՒƅˣ.FݯțR١.SUR١ƷƁ~ƜİӲİހӲĶىİԥӲ.כID𐀅mۍm̼mВaDITTOǔaҹ ҎUۦѰST" ++
  "ʭʾȞaѻҳǔm̵җǔm֙ߙaӳʲaيʲaӳΊʲaيΊʲaӳ͉ƞaي͉ƞaӺ͉ƞaٍ͉ƞaӳ˲ԃƞaي˲ԃƞa؏ALǔaGϊǔaӳܿaيܿaӺԃƞaٍԃƞaӺܿaٍܿaӺۓaٍۓaާƧaكΊؙȃaΊؙȃaԣΊؙȃa؏ALǔƳaHʮZѧ ֞rݙsѨrЊsҴrګsϔrΥrքaѻԈܸmܸ٘mDE׫ҘܸmλEܸٔaуڦƬ ܸhΉƬ ܸaިD˃aޏKʪȅPΝǔuȻޜvԺހмuȻޜ ހмvԺԥмa̰؏ALǔaѻTάЫ ԏFEΟڄȞaHʮZѧ ֝ʑ܍sެsќaޏѻҳǔaMASUǔa׫ AL܏NˎaѻފܱǄmнϯȖ𐀂aњǌڸqAqڷIqIqڷUqUqڷEqEqڷOqOqKAqGAqKIqGIqKUqGUqKEqGEqKOqGOqSAqZAqSIqZIqSUqZUqSEqZEqSOqZOqTAqDAqTIqDIqڷTUqTUqDUqTEqDEqTOqDOqNArIrUrErOqHAqBAqPAqHIqBIqPIqHUqBUqPUqHEqBEqPEqHOqBOqPOqMArIrUrErOqڷYAqYAqڷYUqYUqڷYOqYOqRArIrUrErOqڶȸqWArIrErOqNqVUqڶǇxE𐀃a̻ӌ-њ ޜ$ځ-ޜaӌ-њ ޜsځ-ޜaњ ҳǔjޛҳǔiƪ YORIaӌ-њ ΊѮiǌڸqAqڷIqIqڷUqUqڷEqEqڷOqOqKAqGAqKIqGIqKUqGUqKEqGEqKOqGOqSAqZAqSIqZIqSUqZUqSEqZEqSOqZOqTAqDAqTIqDIqڷTUqTUqDUqTEqDEqTOqDOqNArIrUrErOqHAqBAqPAqHIqBIqPIqHUqBUqPUqHEqBEqPEqHOqBOqPOqMArIrUrErOqڷYAqYAqڷYUqYUqڷYOqYOqRArIrUrErOqڶȸqWArIrErOqNqVUqڶǇxEqVArIrErOjՔi-њ ؚԛEDȕǔi ҳǔjޛҳǔiƪ KOTO𐀆aBOPOMOFOǌBqPqMqFqDqTqNqLqGqKqHqJqQqXqZHqCHqSHqRqZqCqSqAqOqErHqAIqEIqAUqOUqANqENqʮqκrRqIqUqIUqVqNGqGNqIHqOɇqNN𐀂aуԆӚoۘoӚɭoփt-̬uѕoܩoۗܩoوtɨuՙu׿uکuܛu׼uѕoՙo׿oۙo׿ɭoکoۚoѽo̬o̬ۗoCєoӕoܛo׼oѕoApEoYAqEoEOpoYEOqoOoWAqEoOEoYOoUoWEOqpIoYUoEUoYIoIhϰhԆۗփoփ-ܩuکuסoوɨɭuܩu׿ɭuסu߈oՙ-׿uکuסoӈՙo׿ɨuܩuکɨzܩu̬uܛoӉwۙoکɨtփtܩt׿t̬oסoۗѽoߊwɭxסoӈ׼oۗѕo߈pO-YAtErIpU-YEOtrIoAحAtE𐀂aѻAN֓ˍ ԒҗǔxفǔxַǔxݙǔyѨǔxЊǔxTOPǔxՒǔx˺ǔx϶ǔxٽǔx" ++
  "ܜǔxЎǔxщǔxΜǔxԶǔaBOPOMOFOǌBUqZIqJIqGUqEErNNqOOrNNqIRqANNqINNqUNNqIMqտqʍNrUNNrMqOMrNGqINNNjϱԆPwTwKwHjԆGHqLHqZYjϱԆGjԆGWqKWqOEqAHaCJKș TlWGlXGlBXGlSWlHZZnGmPmZWGlSZWGlHZTnZPmPWGmZWnZZlNlHlSlPlSPlDlHZmGlSZmWZmTmGlPDmZlTNlSZZmWGlHXWGmZZZGlPGlQ𐀍aӌǌڷKUwSIxUwTOwNUwHAxIxUxExOwMUwRAxIxUxExOaשҷуӚvփvܩvوvՙv׿vکvѽv̬wєvӕvܛv׼vѕvӚ Avփ Avܩ Avو Avՙ Av׿ Avک Avѽ Av̬ Awє Avӕ Avܛ Av׼ Avѕ Av̬ UoK׆ʩ̟ OJEON) HU𐀂oѺǯyݙzѨyЊzҴyګzϔyΥyքy܍yեyϵyަz־yMϊLyΜy۲zT֦yHAVEySOCIETYyNʧySPECIALyFINʬIALỳЩTUӰyӢORyREPؾλyCʟySTUDYzU׳VҫyEN܏PRҫyؾדCEyʟIAճyFEۣVALxȆySELFyسCHa̰Ѻ ةsKINͪЙ܍sSCўLsKOTOi֜Ǭ˴qެǬ˴qќǬ˴pЈǬ˴qѿǬ˴pگǬ˴qϗǬ˴pΪǬ˴a׫չڑPȑa̰֙ݘǯwݙxѨwЊxҴwګxϔwΥwքqќvǯwݙxѨwЊxҴiуӚpփpܩpوpՙp׿pکpѽp̬qєpӕpܛp׼pѕpӚ Apփ Apܩ Apو Apՙ Ap׿ Apک Apѽ Ap̬ Aqє Apӕ Apܛ Ap׼ Apѕ AiK׆ʩ̟ CпKOzJUEUIiуѽ UaK׆ʩSTʭʾȞa̰ѺǯsݙtѨsЊtҴsګtϔsΥsքs܍sեsϵsަt־sMϊLsΜs۲tT֦sHAVEsSOCIETYsNʧsSPECIALsFINʬIALs̀ЩTUӰsӢORsSECRETsMʖsϪrȝA˵sEXCELLλsPْTsAT܍ܱsITEMrȆs͇YuRRΞsHIGHs̜sԢsӲsىsՁICҔsRίGҧsSTUDYtU׳VҫsEN܏PRҫsؾדCEsʟIAճsNҀi֙Tќ ګxϔwΥwքpЈuǯvݙwѨvЊwҴvګwϔvΥvքqѿaѻTάЫȞƵJANUARY+FEBRUARY+ԹCH+APRIL+MAY+JUNE:LY+AUGUST+SEPTEM˦+OCTO˦+NטM˦+DECEM˦aےHGhERGiVaԍI܈LIABIԔYȑa̰ӌ ArIrUrErOrKAsIsUsEsOrSAsIsUsEsOrTAsIsUsEsOrNAsIsUsEsOrHAsIsUsEsOrMAsIsUsEsOrYAsUsOrRAsIsUsEsOrWAsIsEsOaےERA NʧȅIWAhAPAˏiRUHUAiN׮iARUhINҗUjTIhݷhESݭU" ++
  "DOiEӂhONSUiOMUhKAҪjRATTOkORIIhGAٛjNMAiIGAjNIIhKYURIIhGIRݪAhKIROlGUرUlMEEܾUlWATTOhGUرUnܴhӠUZEIROkOַiEESUiO٧AjOPOhSAIӠUiʶIMUiIٓUiμlOhDAASUiESIiORUhܴhNʳiOTTOhHAITUhPAASλOkTUhBAARERUhPIASUܾUjӠUkOhBIRUhHUʺDDOjIITOhBUSS߉hѬANiEKUۼRUh׹OjNIHIhѐUTUhױSUjEZIhBEϊh؊OhBORUTOhHONhPOյhўRUkNhMAIӠOkRUjђjRݭjNSYONiIKUٛjRIlBAARUiEGAlܴjEܾUhYAADOkRUiUANhܾٙUjRAiU؀jU̇UiEMUjNTOGENhWATTOaѻTάЫȞƵHד ߙ=ַ=ݙ>Ѩ=Њ>Ҵ=ګ>ϔ=Υ=ք=܍=ή=ݖ>ћ=Ѝ>Ѿ=ڭ>ϖ=Χ=օ=ݘ^-ַ_ݙ|Ѩ_ЊaےHPAhDAhAUh˙hOVhPChDMj ۔iԭhIUhERA Nʧ HEҫIqSYOUWAqTAISYOUqMEIZIh͈PORˍhPA AMPShNAhMU AiAhKAiBhMBhGBhCALhKCALhPFhNFhMU FkGiGhKGhHZhKHZhMHZhGHZhTHZhMU LiLhDLhKLhFMhNMhMU MiMhCMhKMhMM ۔hCM ۔hM ۔hKM ۔hMԭhCԭhԭhKԭhMǴSp ۔hPAhKPAhMPAhGPAhRADkǴSr ۔hPShNShMU SiShPVhNVhMU ViVhKVhMVǕGAhPWhNWhMU WiWhKWhMWǕGAhK OHMhM OHMhAMhBQhCCiDiǴKGiOhDBhGYhHAiPhINhKKiM ̎iThLMiNiOGiXhMBȔiILiOLhPHiMiPMiRhSRiVhWBhVǴMhAǴMaѻTάЫȞƵDAYǯ<ݙ=Ѩ<Њ=Ҵ<ګ=ϔ<Υ<ք<܍<ή<ݖ=ћ<Ѝ=Ѿ<ڭ=ϖ<Χ<օ<ݘ]-ַ^ݙ_Ѩ^Њ_Ҵ^ګ_ϔ^Υ^ք=ќ]-ַaےД𑧁aHEXAЪƵܔCRΝҵщrصEPTҵΜnDIFFICݰYƙܔBEGINNҗnYזHFUL FֱYnWAIܰǹFLICTnܔARMYnH֫җȰnڶȟMҗnTشҗn׮CEnSTʭST҇nFELԢڑPnЮǺSSESڨnMODψYnλHUSIASMnFOLԢҗn޺KǬܓƨCAYEDnAPؚACHǹTEMPӰn˰ҘTHROUGHnЩCEnSPԔTҘA׫nREݒnINNOCεnЮȟMҗnզ ͉SnЮ PRE؍ͪAճnܔABYSMʑަrCԑҘϵnINFLUεnDURˍnRETRΝnЮǺWERnؚGRχnDARKENҗǣܔԋnܓƲ՚YnOP؎oB۪nDίލAճpCRE˂nҍn˾THROUGHn̹җȬǕETnGAܓٓȰn" ++
  "PUڔGȶWʾnOPPؾڨnܔWELLnREVOLUܱnܓơULDٛrAROUSҘTHݳrKEEPҘST҇ MגnDEVβPՍnܔԹRYҗǓѹNnABUմճnܓȸNͪERrGENܳ ޵rJOYהLʐnͻ׳ڨnԍITˍnINNτTRUTHnڷPRE؍ͪAճnAFTτ̹؆ܱnBEF׆ ̹؆ܱ𕈁aYI ۸ITnXnnPnEToXooPmATnXnnPmݹooPmOTnXnnPmEXnmWUm˰oXooPoETpXppPnAToXooPnݹppPnOToXooPnEXooPnUToXooPoRXpnYToXooPoRXpmPIToXooPoEXppPnAToXooPnݹppPnOToXooPnUToXooPoRXpnYToXooPoRXpmB˰pXppPpETqXqqPoATpXppPoݹqqPoOTpXppPoEXppPoUTpXppPpRXqoYTpXppPmN˰pXppPpEXqqPoATpXppPoOTpXppPoUTpXppPpRXqoYTpXppPpRXqmHMITpXppPpEXqqPoATpXppPoݹqqPoOTpXppPoUTpXppPpRXqoYXppPpRXqmMIToXooPoEXppPnAToXooPnݸpXppPnOToXooPnEXonUToXooPoRXpnYToXooPmFIToXooPnAToXooPnOXooPnUToXooPoRXpnYToXooPmVIToXooPoETpXppPnAToXooPnOToXooPnEXoPnUToXooPoRXpnYToXooPoRXpmDIToXooPoEXppPnAToXooPnݹpnOToXooPnEXooPnUToXooPoRXpmTIToXooPoEXppPnAToXooPnݸpXppPnOToXooPnEXooPnUToXooPoRXpmDDITpXppPpEXqqPoATpXppPoݹqqPoOTpXppPoEXppPoUTpXppPpRXqmNDITpXppPpEXqoATpXppPoOTpXppPoEXppPoUTpXppPpRXqmHևpXppPpETqXqqPoATpXppPoݹqoOTpXpPoEXppPoUTmևoXooPoEXppPnAXooPnݹppPnOToXooPnEXooPnUToXooPoRXpmHԔpXppPpEXqqPoATpXppPoݹqqPoOXppPoEXppPoUTpXppPpRXqoYTpXppPpRXqmԔoXooPoETpXppPnAToXooPnݸpXppPnOToXooPnEXooPnUToXooPoRXpnYToXooPoRXpmGIToXooPoETpXppPnAToXooPnݸpXppPnOToXooPnEToXooPnUToXooPoRXpmKIToXooPoEXppPnAToXooPnݹppPnOToXooPnEToXoo" ++
  "PnUToXooPoRXpmGGITpXppEXqqPoATpXppPoݸqXqqPoOTpXppPoETpXppPoUTpXppPpRXqmMGIEXqoATpXppPoݹqqPoOTpXppPoEXppPoUTpXppPpRXqmHXITpXppPpETqXqqPoATpXppPoݸqXqqPoOTpXppPoEXppPmNGIEXqqPoATpXppPoݸqXqoOTpXppPoEXppPmHIToEXpnAToXooPnݸpXppPnOToXooPnEXooPmWAToXooPnݹppPnOXooPnEXooPmZIToXooPoEXppPnAToXooPnݹppPnOToXooPnEXooPnUToXooPoRXpnYToXooPoRXpmCIToXooPoETpXppPnAToXooPnݹppPnOToXooPnEXooPnUToXooPoRXpnYToXooPoRXpmZZITpXppPpETqXqqPoATpXppPoOXppPoEXppPoUXppPpRXqoYTpXppPpRXqmNZITpXppPpEXqqPoATpXppPoݹqoOXpPoEXpoUXppPpRXqoYTpXppPpRXqmSIToXooPoEXppPnAToXooPnݹppPnOToXooPnEXooPnUToXooPoRXpnYToXooPoRXpnSITpXppPpEXqqPoATpXppPoOTpXppPoEXppPoUTpXppPoYTpXppPpRXqmߛTpXppPoݹqqPoOTpXppPoETpXppPoUTpXppPpRXqoYTpXppPpRXqm̞TpXppPoݸqXqqPoOTpXppPoETpXppPoUXppPpRXqoYTpXppPpRXqm٤XpoݹqoOTpXppPoETpXppPoUTpXppPpRXqoYTpXppPpRXqmNRATpXppPoOXppPoETpXppPoUTpXppPpRXqoYTpXppPpRXqmڇTpXppPoݹqqPoOTpXppPoETpXppPoUTpXppPpRXqoYTpXppPpRXqmRAToXooPnݹppPnOToXooPnEXooPnUToXooPoRXpnYToXooPoRXpmJIToXooPoETpXppPnݸpXppPnOToXooPnUToXooPoRXpnYToXooPoRXpmQIToXooPoETpXppPnݸpXppPnOToXooPnUToXooPoRXpnYToXooPoRXpmJJITpXppPpETqXqqPoݹqqPoOTpXppPoUTpXppPpRXqoYTpXppPmNJITpXppPpETqXqqPoݹqoOTpXppPoUXppPpRXqoYTpXppPpRXqnYITpXppPpETqXqqPoݹqqPoOTpXppPoUTpXppPmXITo" ++
  "XooPoETpXppPnݹpnOToXooPnYToXooPoRXpmYIToXooPoETpXppPnݸpXppPnOToXooPnUToXooPoRXpnYToXooPoRXp𐀄dRADѵQOTlLIlKITl֡PlCYPlSSIlGGOPmEPlMIlHXITlLYRlB̈lMOPlYOlPUTlHXUOlTATlGAlZUPlCYTlDDURl̇lGGUOlNYOPlTUlOPlJJUTlZOTlPYTlHMOlYITlVURlSHYlVEPlZAlJOlNZUPlJJYlGOTlJJIElWOlDUlSѬlLIElCYmUOPmIPlHXOPlڇTlZURlڕPl̡lZZIETlNBIElKE𐀊aLISUǌBAmPAnHAmDAmTAnHAmGAmKAnHAmJAmCAnHAmΘm݋oHAmMAmNAmLAmSAmߛnAmվmHAmXAmђmFAmWAmڇmYAmНmAnEmEnUmImOmUnEnHmOEmܶMYAȨrNAǺrMYA CYAvBOvNAvJEUfء ̼rВaVʋ۸EEpNnэnWEEqNnװnBэoEEnM˟nKװnMG˟nG˟nϨnVEEnTEEoэnDэpэnLEEnعnͦnNͦnSEEoэnZEEoэnCEEnJEEn֊En߂nKEEnտEEnGEEnMEEnNEEo߂nIoNnHIpNnWIpNnPInBHIoInMBInKPInՐInGBInFInVInTIoHInDHIpHInLInRInDInNDInSIoHInZIoHInCInJInNJInYInKInտInGInMInNIoYInAoNnNЖnHApNnWApNnPAn˫oAnԼnKPAqNnՐAnGBAnFAnVAnTAoHAnͭpHAnLAnRAnDAnմnSAoHAnZAoHAnCAnJAn։nYAnKApNnտAnGAnMAnNAoYAnOOpNnўn޹qNnPOOnBўoOOnM˹nKPOOnMG˹nG˹nFOOnVOOnTOOoўnDўpўnԞnROOnDOOnյOnSOOoўnZOOoўnCOOnJOOnNJOOnߐnKOOnտOOnGOOnMOOnNOOoߐnUoNnHUpNnWUpNnPUnBHUoUnԾnKPUnՐUnGBUnFUnVUnTUoHUnDHUpHUnLUnRUnDUnNDUnSUoHUnZUoHUnCUnJUnNJUnYUnKUnրnGUnMUnNUoYUnOoNnւNnHOpNnWOpNnPOnBHOoOnMBOnKPOnՐOnGBOqNnFOnVOnTOoHOnDHOpHOnLOnROnDOnյnSOoHOnZOoHOnCOnJOnNJOnYOnKOnտOnGOnMOnNOoYOnEoNnNGENnHEpNnWEpNnPEnBHEoEnԽnKPEqNnՐEnGBEqNnFEnVEnTEoHEnDHEpHEnLEnREnDE" ++
  "nNDEnSEoHEnZEoHEnCEnJEn֊nYEnKEnտErNnGEpNnMEnNEoYEoGnԁEչe̼eВeتe۸յLEƲtKAtSOOeۺFEκlKEκlܰlNIIlBʮlFAAlۼlDʮmOֽlKݵlTֽlDO-OlJֽe͸kַkݙlѨkЊlҴkګlϔkΥkքe۸յLEǓtDO𐀕a͘ ̐ZEMLYAjںZEMLYAj̐DZβjڼZβj̐كDZEjںكDZEj̐ҨjںҨj̐΀jں΀j̐դЫ UKjںդЫ UKj̐̃AD ֲjں̃AD ֲj̐ռ YERjںռ YERj̐߉Ȼ˕ YERjں߉Ȼ˕ YERj̐ҩYATjںҩYATj̐كYUjںكYUj̐ҩAjںҩAj̶̐Ԗjں̶Ԗj̐BLηEDɡjںBLηEDɡj̐ҩ̶Ԗjںҩ̶Ԗj̐YNjںYNj̐ك݌jںك݌j̐ۇƨjںۇƨj̐ۇ ELjںۇ ELj̐ۇ EMjںۇ EMj̐դ͒Ojںդ͒Oj̐BINO͒OjںBINO͒Oj̐Ίդ͒OjںΊդ͒OjԆMݰIO͒Oa̻͘ VZՏtTδ՛ȑtѫ ՛ȑsȦ ՛ȑaSLAVONѳ˅a̻͘ǌݬE!I!YI!U!х!߉!ۇȑ!ֲtKAޢtPAYEROKa͘ǇޢjPAYEROKj̐DWEjڼWEj̐DZWEjڼZWEj̐ZѭjںZѭj̐C̡jںC̡j̐DZZEjڼZZEj̐TΙՕjۀΙՕj̐TWEjۀWEj̐TSWEjۀSWEj̐TSSEjۀSSEj̐T̡jۀ̡j̐ѭjںѭj̐Sѭjڿѭj̐ΊOjںΊOj͍̐Ojں͍Oaբ͘ хzۇȑa̻͘ǌEF!ҩEaBAMUMǍnKAnUnKUnEEnعnTAEnOn֡nInLAnPAnRIIpEEnLE΢nME΢nۼnմAoJAEMnMnSUUnMUnڑIoIoHϓoϓnK߂oETnNݥpoJݥnYOQnڛnYUQoAnNڇnKϓnPϓn֊EoTEEnPUEnWUEnװnϨnRUnLUnMInNInRϓoAEnKENnցWAENpGApAnڕnPݥnFUoOMnWAnNAnLInPInLOQnKOnԽNnؼnՌoAnTInKInMOoBAAnTETnKPAn܍nNTUUnSAԼnFAA԰nKOVUUpGHOMg̻ԺKOQյNvTUKWμSg։EMLIgВg̷g̼gڂgت𐀉aբ̧պE ܶYIN ؂&ʯ؂&IN SHʮ&ʯSHʮ&IN QU&ʯQU&IN RU&ʯRUqϟіΈܷqіΈܷqՑΈܷqԣΈܷqϟԣΈܷwіΈӼqіΈӼqՑΈӼqԣΈӼqϟԣΈӼwіӼqіӼqՑӼqԣӼqϟԣӼqD׍ސuڲuѣqԦ͉ ʰqدUPƖx΍Ɩxϛxҥϛqԣҥϛqۦχƅіܵ#ԣܵaӮ̒дʗgڽдʗg̒дʍgڽдʍg̐HκgںHκg̐TZgۀZg̐Tؾ҇Ogۀؾ҇Og̐͑gں͑g̐͑Ȼ̼gں͑Ȼ̼gԇF#Sg̑AgڻAg̑OgڻOg̑UgڻUg̑VgڻVg̑VȻѣgڻVȻѣg̑YgڻYg̐كCɆgںكCɆg̐KɚgںKɚg̐KɅgںKɅg̐KɚƅͰ" ++
  "șgںKɚƅͰșg̐̄ Lgں̄ Lg̐ӡі۩gںӡі۩g̓ԛȚgھԛȚg̓ԟgھԟg̐OOgںOOg̐PɚȧͬgںPɚȧͬg̐PȻЁgںPȻЁg̐PȻSثRREL ܀gںPȻSثRREL ܀g̐QɚȧͬgںQɚȧͬg̐QɅgںQɅg̐RȉgںRȉg̐٦ȉgں٦ȉg̐VɅgںVɅg̐VYgںVYg̐VISIG׎ѳZgںVISIG׎ѳZg̐Tѥɚgۀѥɚg̐Tѥɚȧͬgۀѥɚȧͬg̐VηgںVηg̒TgڽTg̐ISgںISg̐̀gں̀aբUSaӯDUMtԩtMUMtNUMt٦gԇ٦gۀUMtUMg̐ҞDgںҞDg̐ҞFgںҞFg̐ҞGvݓҞGgںݓҞGg̐ݓLgںݓLg̐ҞRgںҞRg̐ҞSgںҞSg̐ҞTgںҞTaբԣ̲Ƅq̷qژπaӮ̐ٯ҇Ogںٯ҇Og̐ݓHgںLɘƅˤgԆSINOԙ΃g̐NɃgںNɃg̐CȻ˙gںCȻ˙uɕtHɕg̐BȻЁgںBȻЁg̐FɚgںFɚg̐ޝAEgںޝAEg̐ޝOEgںޝOEg̐ޝUEgںޝUEg̐GɓgںGɓg̐KɓgںKɓg̐NɓgںNɓg̐RɓgںRɓg̐Sɓgڿɓg̐HɊvك׃vٻGvӡˤoԇIgԇQg̐ݓK$TvJɀv̧v˨gں˨gֲ̐gںֲg̔۩gہ۩g̐ФAgںФAg̐ФIgںФIg̐ФUgںФUg̐֬،Ҭ Ogں֬،Ҭ Og̐ʮLICʪ WgںʮLICʪ Wg̐CɕvSɊvZɕvDȻڗȚgڼȻڗȚg̐SȻڗȚgڿȻڗȚ𐀆g̶̐ҞGgں̶ҞG𐀂tΊTѥ𐀂!WYNNg̐ՓSCOTS SgںՓSCOTS Sg̐SIGMOID SgڿIGMOID S𐀙aբ̏CyFyQaӮ̐كнHgںكнHgEPIЫICǌڞIaբ̏HɚqڷԊOEaӮԇݓMgEPIЫICǌكF+PyҥMz ԛAyʽMaSYLOTIǛGRIǍuInڠDVISVʺnԆUuEuOnڠHASʵnԆKOvHOuGOvHOnڡnԆCOvHOuJOvHOuTTOwHOuDDOwHOuTOvHOuDOvHOuNOuPOvHOuBOvHOuMOuROuLOuRROuSOuHOnޠAyIyUyEyOOnPOETRYǔ-1z2z3z4nڠʤHASʵ𐀄a֏ ҎѳЏּzмvܢvָڮzΨvܟڮSmاǔm؅Hְǔm٨ǔmQUʶTYǔ𐀇a׺GS-PAǏrHAqGAqվqCArHAqJAq֠qTArHAqDAqNAqPArHAqBAqMAq݋sHAqΘqWAqߛrAqڸqYAqRAqLAqڇrAqHAqAqIqUqEqOqQAqXAqFAqGGAqEEj۫DǌWA!YAjԆݎsHAqͤq֋qʤYAqVOѷLχ ڇvDƼqAېA܈FAj۫DǌRAl׳ϻǌRAjԆ̍jڧчjΊчjԺڈoΊڈ𐀉aSAUR˃݀ ڡqޗkǍtAsItIsUtUsޚ#R!L#LsEtEsAIsOtOsAUsKAtHAsGAtHAsվsCAtHAsJAtHAs֠sݎuHAsͤuHAs֋sTAtHAsDAtHAsNAs" ++
  "PAtHAsBAtHAsMAsYAsRAsLAsVAsڇtSAtAsHAsԘl̓еRUlޡwIxIwUxUwޚ(R&L(LwExEwAIwOxOwAUlڣq̍𐀉l͟mאl͸rַrݙsѨrЊsҴrګsϔrΥrք𐀇a̺ƨVʪЙI ͸#ַ#ݙ$Ѩ#Њ$Ҵ#ګ$ϔ#Υ#քuǍ$U$KA$NA$PA$RA$VIvڠˑaDEVʪЙIȒSPACҘ̍q̍ ޖqΊ̍ ޖq̍ȵ%Ѩ$ˑqPއPIKAlGʹϰl̕ETlц۩lڠڜlJʍ OMkǍYlޠAYaK˒H LI ͸pַpݙqѨpЊqҴpګqϔpΥpքiǏrHAqGAqվqSArHAqZAq֠qTAqѩqNAqPArHAqMAqDAqBAqRAqYAqLAqWAqܑqHAqVAqCAqAqOEqIqOOjޟUEpEpUpEEpOjܶPLOPHUoCALYAt PLOPHUjڠCWIoSHYAaREJʮǏoGAoվoTAoDAoNAoPAoBAoMAoCAoJAo֠oSAoRAoLAoYAoWAoHAoԼoտApDApYJAoAhޠIsUsEsAIsOsAUsEUtAh̓NGxwRwHhޖ𐀌hٿaу̨ڃܩ-ՙx׿xکx̬qوɨwۘwܩwۗܩwՙw׿wۙwӉwکw̬wӕqՙɨwܩwکq׿ɭ-ܛwӕwѕqۚ-׿qѽ-وwѕq̬ۗ-ѕvܛq׼-ѕqѕɭqۗ߈𐀄aJAVAպEȑǵ֠տAoCECAKoL˒RoWIGN޿iǍqIǇWIrrIqUqPA CEREKqվ LάTzȄSWADIqEqAIqOqKAsȍsǚqGAsǚqվqCAsǚqJAq֠ǚqJA Բq֠qݎt Բqͤt ԲqNAǚqTAsǚqDAs ԲqNAqPAsǚqBAsǚqMAqYAqRAs AGݵqLAqWAqSAǚtԲsqHAjڠCECAKȣLUjޠ܃ݵvOԛuWݱy MίKuSݭy MηUTuTAԑuDIRGAǙREuPEPETj̓KERETyPEցALyCAKRAjPAցONjӲȅRκЖjىȅRκЖjPADA AմPoMADYAoLUѬo޵UoPAցAToԑSApݵSIoʈGs ʈGoPISάHjݓPADA PISάH𐀂jPANЩցEPj͸pַpݙqѨpЊqҴpګqϔpΥpք𐀅jPADAȨRTA TUՏESoҫN-ҫNaM޿ԹǌڋНu̞uҼu֋u˫iڠڋSAWiբڋطUPLѶiԆۿ֠zFAzGA!HAzJA!HAzͤ#HAz֋iۿ͸yַyݙzѨyЊzҴyګzϔyΥyքiԆۿԘzDA!HAzBA!HA𐀂aCпǍmImUmEmAImOmKAnHAmGAnHAmNGUEoAm̞oHAmJAnHAmNHUEoAoJAmTAnHAmDAnHAmNUEnAmͤmPAnPAnHAmBAnHAmMUEnAmBBAmYAmRAmLAmVAmۖnAmHAfޡqIrIqEIqUqOErqAIrUqUEf̓YAuRAuLAuWA𐀊fԆϱKsGsNGf̓ϱNGfԆϱCHsTsNsPsYsR"

def namePart4 : String :=
  "sLsSSf̓ϱM!H𐀃f͸lַlݙmѨlЊmҴlګmϔlΥlք𐀃fء ېALr͟sאr݈͟aM޿ԹǌӓGAwCAxHAwJAxHAw֠wݎyHAwͤyHAxHAwNAwSAwHAxHAwFAiբӓطUPLѶiԆӓXAwZAwRAjOG֨ ӓOAYyQNyHMiۺAITִϚvַvݙhǍIܴȄiڠPAOǈܵnۿܹ2$5iԆSѭ Pʔݵ ̞$ڇaTʋVIETǌԣKOqіKOqԣKHOqіKHOqԣKHHOqіKHHOqԣGOqіGOqԣւqіւqԣCOqіCOqԣ̨qі̨qԣSOqіSOqԣNYOqіNYOqԣDOqіDOqԢȬqіTOqԣܝqіܝqԢǝqіNOqԣBOqіBOqԢǺqіPOqԣ׽qі׽qԣFOqіFOqԣMOqіMOqԣYOqіYOqԢȇqіROqԣLOqіLOqԣVOqіVOqԣHOqіHOqԣOqіOjԳKʮjޟAApIpUEqpEpOjԳKHITjޟIApUEAqApAUEqYqNqMjܶԳEKsNUκsܝsSֽ𐀙jۺKONqNUκqSAMqHO HOIqKOI KOIaMEETEIǓYEKǌEuOu̞u֠uݎwHAuͤwHAu֋uڇvSAnޠIIyUUyʂzUzAUn̡IӐNnAHʯKHݪMoNJIn۸ؽn޻ؽnޠޗnޖ𐀋aό۸TTHUvIvAAvEEwvO𐀃sDDHUvIvAAvEEwvO𐀃tZUuIuAAuEEvuO𐀊sCCђwUwIwAAwEExwO𐀂sBBAuUuIuAAuEEvuO𐀂aӯ˛ʣtA فD-ٸt˱ԆEt˛EtΙЁtLENIS FtٻGɀtӡҥLAZY S!ΊՓܪ!ՓٓtMɀtNɀtκɀt˱ԆO)ɚtׂOɚtҥOEtݓOEɚ.Ѥ# ׁ-O.ɚtۣRRݺRgԇRȻيԀgںR ޷тLEtΊRtRɀtΊRɀtٻR#ȻٓtB˂ԏυlǑژيԀv˙ȻژيԀuItݓUItUɎџţwȻԣيٓ)ӳڅIFtXȻԣيٓ!ԜӳԀ>ƅԣيٓ>ət޾ژيԀaա ̀ȻҦjԆڷHκwӡҥLAZY SxɒwUɎџaӯSAӐ YATtҩEtׂOEtUOtҥʣaаԇֲaӯDZƪɘtTSƪɘtݓRɒaբڷݓWqӲȡqىȡ𐀅aCѐOKEE ڻwEwIwOwUwVwGAwKAwGExIxOxUxVwHAxExIxOxUxVwLAxExIxOxUxVwMAxExIxOxUwNAwHNAwNAHxExIxOxUxVwQUAyEyIyOyUyVwSAxxExIxOxUxVwDAwTAwDEwTEwDIwTIwDOxUxVxLAwTLAyEyIyOyUyVxSAyEyIyOyUyVwWAxExIxOxUxVwYAaMEETEIǓYEKǌKOKuSAMuLAIuMITuPAuNAu̧LuTILuKѧuւUuTѧuWAIuYʮuHUKuUNuIuPпuATҶuGOKuJпuRAIuBAuJILuDILuGѧuDѧuBпuKOKǒuLAIǒuMITǒuPAǒuNAǒuTI" ++
  "LǒuւUǒuIǒnޠONAPyINAPyʪPyYENAPySבAPyUNAPy̡INAPyNݵn̡IӔnԩ IYEKnAPUN IYEK𐀃n͸tַtݙuѨtЊuҴtګuϔtΥtք𒮷aуJݵڃO-YEOtO-IrYO-AvEuEOrU-YEOtI-IrYU-AEuOrEU-AuEOvuOrI-YA-OvEuEOvtO-ItYOuUtIrAحA-AxE𐀅iֽڃփ-وxCєrۗܩ$-׿rܩ-׿yک$ɨy̬zєyܛrو-ۘxӚ-ѕrۗو-ӕrو-ՙ-ѕx׿-ܩ%׼xߊx߈-ѕrӈوrՙ-փxۗփrۗՙrՙ-׿ɭx̬r׿-ܩxو-׼xՙrۙr׿ɭ-ܩx̬yєrک-ՙwӉrۚɨ#ܩrک-סw̬xєwܛwѕrס-׿zӉrߊ-ՙ!ѕr̬-׿xۙr̬ۗr׼ɭzܛ𒌅aӮڷԊFFwIwLwFIxLvԜS TvST𐀍aʿڷԊMδ֖$ECH$INIyVEW ֖yMδXEH𐀆aHEBREWǌߎȻHҪQh؊ JUDEO-SPANҬ VARIKAhԊYIDͼ ߎ ߎǵ۾gǍԨ˔oWѹ ʗtDʖTtHEtӃtLAՁtϱՋtؿtTAVoAԨ؈oڔȻڔƬzINƬy͛ƅڔƬ;INƬoʛPA۾yQʦTSyMAPIQoBETɂoРɂoDʖTɂoHΙMAPIQoVAVɂoߗɂ𐀂oTETɂoߎɂoϱӃɂoӃɂoLAՁɂ𐀂oՋɂ𐀂o֟ɂoٱɂ𐀂oϱPEɂoPEɂ𐀂oT٬IɂoQOFɂoؿɂoڔɂoTAVɂoVAVȻHOӧoBETȻRAFEoӃȻRAFEoPΙRAFEhԊʗ LAՁaʻǌʗȸSLAǆzϲo˟HǆtϲtҜtՃoPEHǆsϲsҜsՃoBEяǆuϲuҜuՃoTTEяǆvϲvҜvՃpEяǆuϲuҜuՃp܉ǆtϲtҜtՃoVEHǆsϲsҜsՃoPEяǆuϲuҜuՃoD߅tϲtҜtՃoN߅tϲtҜtՃoTCяǆuϲuҜuՃtEHǆwϲwҜwՃoͤлǆvϲpAлǆuϲpULǆsϲp͜ǆtϲoJEHǆsϲoRغǆtϲoKEяǆuϲuҜuՃoGAFǆsϲsҜsՃpUEHǆtϲtҜtՃoւEHǆuϲuҜuՃpOִGHU֋ǆ!ϲoR֍ǆuϲuҜuՃoHΤ߃Ɓǆ+ϲsGOALǆxϲxҜxՃsDOACH˃MEEǆ&ϲ&Ҝ&Ճo߃ƚعǆzϲyȻсǆ[ϲhۺ΄sˣoݜxˣoܡzˣz؋ΓƁ^ˣoЊƮyˣoΊސƜoݞƁ.ˣoٓoڷ۾ƁyˣoWASLAƁ𐀑hԆNGǆrϲrҜrՃoUǆqϲoOEǆrϲoYUǆrϲgǑсǆoVEǆrϲoӗOEǆzϲwYUǆzϲoEǆqϲqҜqՃoUIGѬǇZAKH ӗʘǅıՃhԊYΤсȻʗǆ~ϲ]Eǆ_ϲ[ީǆ|ϲ[Uǆ^ϲ[OEǆ_ϲ[YUǆ_ϲ[Eǆ^ϲ^ҜqUIGѬ ӗYΤсȻʚņϲņҜhԆϦ߅yϲyҜyՃhԊYΤсɍ[и[Պ[ʚ[߅qˡɍzиzKиzՊzʚz߅q܉ɍzиzKиzՊzʚz߅rяɍ!Պ!ʚ!߅qһи!ՊqжɍzՊqӑɍ!и!Պqڀɍ!и!Kи!ՊrADȻиzՊq͙ɍzиzKиz" ++
  "Պq۾ȻиzՊqߓȻՊqʍɍzՊqОɍ#ՊqϩɍzиzKиzՊzʚz߅qآȻиzՊzʚz߅qӃȻʗǆtɍzиzKиzӧǆzՊzʚz߅qӧɍzиzKиzՊzʚz߅qՇɍ!и!Kи!Պ!ʚ!߅q֍ɍ!и!Kи!Պ!ʚ!߅qяɍzՊzʚz߅q߃ɍzиzKиzՊzʚz߅qܑӡ۳ʗǆqRΤ۳ʗǆqʘȻ۳ʗǆqڈDʀ͞܂ǆ$Ӌ܂ǆ$Fˋǆ$͞ǆ$Ӌǆ$۳ʗǆqYΤсɗƴ[ߔƴ[Ո[֍ƴ[ʙ[߄qˡɗƴzߔƴzՈz֍ƴzʙz߄q܉ɗƴzߔƴzՈz֍ƴzʙz߄rяɗƴ!ߔƴ!Ո!֍ƴ!ʙ!߄qFΤʙz߄qآȻʙz߄qӃȻʗƴzӧƴzՈzʙz߄qӨՈzʙz߄qՇȻʗƴ!Ոq֍ɗƴ!ߔƴ!Ո!֍ƴ!ʙ!߄qʘȻ۳ʗƴq߃ɗƴzߔƴzՈz֍ƴzʙz߄zсɌ[з[Ӓ[Չ[яǅqˡɌzзzӒzՉzяǅq܉ɌzзzӒzՉzяǅrHΤՉqһз!ՉqжɌzՉqӑɌ!ՉqڀɌ!з!Ӓ!ՉrADȻзzӒzՉq͙ɌzзzӒzՉq۾ȻзqߓȻՉqʍɌzՉqОɌ#ՉqϩɌzзzӒzՉqآȻзzՉqӃɌzзzӒzӧǅzՉqӧɌzзzӒzՉzяǅqՇɌ!з!Ӓ!Չq֍Ɍ!з!Ӓ!Չ!яǅqяɌzՉz۳ʗǅq߃ɌzзzӒzՉzяǅzсɑǖ[яǖqˡɑǖzяǖq܉ɑǖzяǖrяɑǖ!яǖqڀɑǖ!яǖqڎɑǖ#яǖqӃȻӧǖzՇǖqӧɑǖq֍ɑǖ!яǖq߃ɑǖzяǖqڈDʀFˋǖ$͞ǖ$Ӌǖq۾Ȼʚz߅qʍȻʚz߅qОȻʚ#߅qڀȻʚ!߅qڎȻʚ#߅qйʚz߅qһʚ!߅qKйʚ!߅q٬Ȼʚz߅q͙Ȼʚz߅qڎɍ#и#Kи#Պ#غǆrΣɗǆrADɗǆq͙ɗǆq۾Ȼʙz߄qʍȻʙz߄qОȻʙ#߄qڀȻʙ!߄qڎȻʙ#߄qйʙz߄qһʙ!߄qKйʙ!߄q٬Ȼʙz߄q͙Ȼʙz߄qڎɋƴ#жƴ#ӑƴ#Ո#غƴrΣɗƴrADɗƴq͙ɗƴqڎɌ#з#Ӓ#ՉrΣȻяǅqڎȻяǅq۾ȻՉqڀɋǖ!жǖ!ӑǖqڎɋǖ#жǖ#ӑǖq۾ɑǖqߓɑǖqʛϧƴ.ǆaORNˉӵhٌaʻ ԊRAH҈HU ʠAHsDI ʠAHU ANH)AA)UM.AA+֋qSʟʠAHU ʕIȸ-AʜHqʕI ˁMwM ˁMxAA ˁMw ˁTU WˁMqQUDͻA SI٤HqSʟʠHU ʕI ޤʜэȸ-SʠMqʕAA ˁMq۽AʺKAȸ-ۼʔAqRAH҈HUM ʠAHqTΤһՉzжɋƴ>Ҝ.ՉzKйՉzՇɌ:з:ӒqҺɑɉƴ?Ҝqжɑɟ:ʙqڀɉɌ!һз;ʙ!Շɉƴ?Ҝ&Ɍ;Ո@ҜrADɉɉƴ=ҜzՇȻՈqڎȻйՈ@Ҝ#Һɟ#ՇȻӑƴ[Ҝ<Ո[Ҝq͙ȻйʙzKйՈ?Ҝq۾ɑɉƴ>Ҝ:Չ:߄qʍȻһՈzՇȻՈ?Ҝ:ʙqОɑȻՈ<߄<ʙqFΤKйՈ?Ҝqآɑɉƴ:ՈqӨйՈ.߄.ʙzҺɌ?ϲzKйՈ?ҜzՇɉƴ>ҜqՇɉɌ:Չ:߄!һз;Չ!ӑɌ;Չ𐀃!һӒqяɑɌ:Չq֍ȻйՉ:ʙ!һՈ@Ҝ;ʙ!Շɟ;ʙq߃ɑȻՈ?ҜqBΤӑɟq܉ɋɟ:ʙzӑɟ:ʙzՇɟ" ++
  ":ʙqҺɑɟ!йʙ!ՇȻʙqڀȻKйʙrADɉɟqڎɉɟq͙ɉɟqӧɋɟzՇɟq߃ɉɟzҺɟzՇɟqՇɑɟqآɑɟq֍ɉɟqآɑȻзqӨйՉqʍɑɟqӃɑɟq֍ȻһзqՇȻӑɟqӨһՉqӃɑȻՈqӨһՈq֍ɋɉƴqҺɉɟqжɋɟqՇɋɟqϩɑɟqˡɉɟqӃɑȻՉqʍȻһՉq٬ɑȻՉrΣȻӑɟq֍ɋɟ𐀈qSʔAMUHU ʔYNAA𐀡tLA USΟAS KORANѳۥȑǆqQʔ USΟAS KORANѳۥȑǆqʠHǆrK˙ǆqMOпMADǆqSAӧǆqRASOULǆqʕEǆqWASʠMǆqSʠǆvԘѧ ʕEȸSʠMqJʠJʔLOUѧaRIʓaʻ ԊBISMIԘH AR-RAHԷAR-RAэMqSU˫ʪHUȸ ۼʔAqAZZAȸ Jʟaދ-1t2t3t4t5t6t7t8t9t10u1u2u3u4u5u6aؘޏ̼(ѻ̼]В(̷(ڂ(ϛ(ت(Ӻԃƞ(ٍԃ BRAKCET(Ѣα𐀇a̻ԊӳмtًkΊܪ ӳмxًkԮ ӳмrًk̀ҽҘԮkԊӴˣtًƜkܪ ӴˣqًƜkԮ ӴˣrًƜk̀ҽҘԮƜk͘ȨTLO ӳмzًaؘގȵƬǋAͪ(EMƧ)NƧ(Ԥ(ިԤ(ӵ(ٌ(ӳ͔(ي͔(ӳܿ(يܿ(ӳ˲ԃƞ(ي˲ԃƞ(ӳΊʲ(يΊʲ(ӳʲ(يʲ(ӳ͉ƞ(ي͉ƞ(Ӻ͉ƞ(ٍ͉ƞaSESʧƬaޯSESʧƬaؘޏӳۓ(يۓaD˃Οםa̜ԏםaިםaΊިםb˃ΟԤa̜ԏԤaިԤaڷ̼gѻ̼gВ𐀂gڂg̷gتgϛhMƧgӵgٌgӳ͔gي͔gӳܿgيܿg֛gʨg˅g؈gѮ-՝gԅȑgЯȑgπ𐀂gقg΂g״g̾𐀅aʻ ϧǆh܄ӡϧƁh͞܂ǆh܀ FRAGՍhӋ܂ǆ𐀂hFˋǆnՃh͞ǆnՃhӋǆnՃhڇͤǆoՃiݭNǆnՃhԆрǆoʛԯƁǆ;ϲyсǆ;ϲoީȻсǆ:ϲoʛрƜǆ;ϲoYΤсǆ:ϲ:Ҝ:ՃoʗǆtϲoˡǆsϲsҜsՃo܊ǆ!ϲrǆsϲsҜsՃpяǆtϲtҜtՃoҺǆtϲtҜtՃoиsϲsҜsՃoKиtϲtҜtՃo͜ǆsϲoܒǆtϲoغǆsϲoߔǆtϲoڀǆtϲtҜtՃoڎǆuϲuҜuՃpADǆsϲsҜsՃo͙ǆsϲsҜsՃo۾ǆsϲsҜsՃoߓǆsϲsҜsՃoʍǆsϲsҜsՃoОǆuϲuҜuՃoϩǆsϲsҜsՃoآǆsϲsҜsՃoӃǆsϲsҜsՃoӧǆsϲsҜsՃoՊtϲtҜtՃo֍ǆtϲtҜtՃoяǆsϲsҜsՃoީǆsϲoʚ#ϲo߅sϲsҜsՃhԊӨʛԯƁǆ~ϲ:сǆ~ϲ@ˣǆ~ϲ%ǆ&ϲ𐀃aߙ ޲ǝ-˾Ȗ𐀂aFݯ޲ ϛjȃk֛k΂k״kʨlؐkӵkٌk˅k؈k̼kѮ-՝kВkۈk͸qַqݙrѨqЊrҴqګrϔqΥqքk̷kڂkԅȑkπkЯȑkتk̾kӮ̑(B(C(D(E(F(G(H(I(J(K(L(M(N(O(P(Q(R(S(T(U(V(W(X(Y(Zkӳۓkقkيۓk̲ƄkԤkЭkӯA%B%C%D%E%F%G%H%I%J%K%L%M%N%O%P%Q%R%S%T%U%V%W%X%Y" ++
  "%Zkӳ͔kޑkي͔kܪkӺתkٍתaм޲ ѻВkӳ͉ƞkي͉ƞkѻ̼kӌ ՔtԆWO!ڸ)I)U)E)O)YA+U+O)TUs-њ ؚԛEDȕǔsǍ!I!U!E!O!KA#I#U#E#O!SA#I#U#E#O!TA#I#U#E#O!NA#I#U#E#O!HA#I#U#E#O!MA#I#U#E#O!YA#U#O!RA#I#U#E#O!WA!Ntޜtځ-ޜkуϰrԆӚyۘyӚɭyփ%-̬&ѕyܩyۗܩyو%ɨ&ՙ&׿&ک&ܛ&׼&ѕyՙy׿yۙy׿ɭyکyۚyѽy̬y̬ۗyCєyӕyܛy׼yѕ𐀄yAzEyYA!EyEOz𐀃yYEO!yOyWA!EyOE𐀃yYOyUyWEO!zIyYU𐀃yEUyYIyI𐀄aFݯ޲ CλȑkPבDȑk֓ȑkԮk̄ƚkYENȑkWONȑ𐀂aм޲ ЇS ԌގkӿkޅkّkΕk˴kް𐀋aҠԐAN֓ˍ ʬѠxڄx܏՜AܾaOBJΞȅ؅Ս ̟aRE؅Ս ̟𐀃aԐB ۸B008 Au38 Eu28 Iu61 Ou10 Uu01 DAu45ƨu07 DIu14 DOu51 DUv7 JAu46 JE𐀂u36 JOu65 JUu77Ǉu44 KEu67 KIu70 KOu81 KUv0Ǔu13Ǖu73 MIu15 MOu23Ǚu06Ǜu24 NEu30 NIu52ǝv5 NUu03ǵu72 PEu39 PIu11Ǻu50 PUu16 QAu78 QEu21 QIu32 QO𐀂u60Ȅu27ȅu53 RIu02ȇu26 RUu31 SAu09ȏu41 SIu12 SOu58țv9ȟu04ȣu37Ȩu05Ȭu69 TUu54ȸu75 WEu40 WIv2 WO𐀂u17 ZAu74 ZE𐀂u20 ZOv5 A2u43 A3u85 AUu71 DWEu90 DWOu48 NWAu29 PU2u62 PTEu76Ȅ2u33Ȅ3u68ȇ2v6ȟ2u87 TWEu91ȵ𐀃jۺB018t9s22s34s47t9s56s63t4s79s82t3t6t9𐀣jѹ֩00 Զv2 ޸v4 ͦRv5 EثDwF ԹEwM STʟҧv6F EWEwM رv7F ڍ-G֤wM HE-G֤v8F SOWwM BOARv9F COWwM Bݯu20 WHΝv1ƚLEYv2 OLҴv3 SPѷv5 CY׳USjգ֩27ǇPOv8 KʪKOjѹ֩30 OILv1 WҔv2jգ֩33 AREPAv5 ՎIjѹ֩40 BٛZEv1 G֫v2v5 ޹Lv6u50v1 ѥv2v3v4jգ֩56 ݑO2jѹ֩57v8v9ƣ׎u60v1v2 ЙՍv3 ARMדv4v5v6v7v8v9u70v1v2v3 գTHv4v6 ݂v7v8v9u80v1v2v3v4v5v9u90v1 HELՏt220 ЅۤOLv5 BˊTUBu30 SPΛv1Ɩv2v3 S޺Dv4v6u40 WюΟ̠v1 ̠v2 ̠ FRʧ" ++
  "v3 Wюv5v6jգ֨ B247 DIPTEjѹ֨ B248v9u51v2v3v4 DARTv5v6v7v8v9sVχEL B155!200$1$2$3$4$5$6$7$8$9#10$1$2$3$4$5$6$7$8$9#21$2$6$7$8$9#50!305𐀆aAEGEʩ޻ڄ Ԏw΃h̢ǔ𐀅h֚oݙpѨoЊpҴoګpϔoΥoքo܍pެpќoЈpѿoگpϗoΪoֆoֻoݟpѨǁoЊǁpҴǁoګǁpϔǁoΥǁoքǁoַȦoݙȦpѨȦoЊȦpҴȦoګȦpϔȦoΥȦoքȦo܎pެȦpќȦoЈȦpѿȦoگȦpϗȦoΪȦoֆȦ𐀄hWΦB˂ Uևo϶ȜoٽȜoܜȜoЎȜhD٩ՀE ϶ȜhLIثD ՀE ϶ȜhՀE ٽȜpܜȜaаA͋׽NѳATܦּ#м#ΖxϹyѿzVEǁ#ȦyѿȦzVEȢx܍ȢxϬȢxֻȢxϹǁȢxַȦȢxϹȦȢ#Șx܍ȘxϬȘxֻȘxϹǁȘxַȦȘx܎ȘxϬȦȘxTδMNASrѐAϐ ָPLϋٛrܗַrѐMҧѱַrEPIDAUسNȵrܗݙrCYؼAѳݚΖSrEPIDAUREʩݚΖSr݉EߘѱϹ$܍( ʤЇrѐMҧѱ܍rMχENѱ܍rܗ܍#ќsROEߘѱϬ+ ʤЇrѐMҧѱϬrܗϬ!ֻ!ܞǁrEPIDAUREʩϹǁr݉EߘѱϹǁrܗϹǁr̕YSTѱϹǁrNAXѱϹǁrܗַȦ!ϹȦrͧPHѳFҵMNASrۧTѱϬ MNASgֺȑt ʤЇgݡȑgܢȑgYΛȑgTALλȑgΖȑgOBOLȑgݚOBOL٫gܟOBOL٫gЋOBOL٫hҵOBOL٫gՏRETE٫gKYˊ׋B˂ȑgLI݀ȑgבKIAȑgXE۟٫gAR۽EȑiדAȑgЪMAȑgTRYBLIִB˂ȑgߙȑgּȑgSINUSOIDȑgҎICܱȑaNOMҭȑ𐀂aROԶȏX܂٫gUNCIAȑgSEMUNCIAȑiXTݮȑgDIMIͮ SϜݮȑgSILIQUAȑgDEհIU٫gثհIU٫gSEۡTIU٫gDU؍DIU٫gA٫gCENݑIʓaASCIAȞ𐀄aаۺ܅ م𐀰a׺Ұ׋ͻCȒׯuԩΟцtTATTOOΟцtCAPTҴuHILDt޸tHELՏtGAUNܳTtTIʺtˀt˼tڑELDtCLUBtMʪCLESvTT֦tSAWtLIDt˹Վʮt̕ײ٩PӫEtDOLIUMt̹BtSԑtCOԩNt˟HҴtڑPtѥuѹtBݯS Ԁt̘tرtEAGLEtDטtTUNNYt˟tPӫE ݂tVҔtעYRUStROSώtLILYtOX ˕tFԫEtЩ܏tۧIչtڸXEtިBʭt̻֥۩𐂃aLYCѲoEoBpHoGoDoIoWoZoTHoJoKoQoLoMoNoMMoNNoUoPoKKoRoSoTpToANoENoHoX𐀄a̕ѲoP2oDoLoUUUoRoLDoA2oQoBoMoOoD2oToSHq2poC-18oUoNNoXoNoTT2oPoSSoIoEoUUUUoKp2oNDoUUoGp2oSTq2oNGoIIoC-39oTTo" ++
  "UUU2oRRoMBq2q3q4oLD2oE2oUUU3𐀐bOPܦEPACTȦSǔnͷtݙuѨtЊuҴtګuϔtΥtքn֜vެvќuЈvѿuگvϗuΪuֆuֻuݟvѨǁuЊǁvҴǁuګǁvϔǁuΥǁuքǁ𐀅a֬ITʜCǍsBEsKEsDEsEsVEsZEsHEsܓsIsKAsELtMtNtSHsOsPEsڍsKUsERtSsTEsUsEKSsPHEsKHEsEFtRSs̡sIIsUUsχl֞tϹt܍tϬ𐀊lԆYEs֏ERN ݌sۉERN ݌aGOܚCǍHSAoBʎӅoGIBAo͚SoAIHVUSoQʎTHRAoIUJAoHAGLoܚUTHoEISoKUڵoӣUSoMA֋oNAUTHSoJERoURUSoPʎTHRAoֆoRAIDAoSAUILoTEIWSoWI։oFAIHUoIGGWSoHWʎoOܒoքǁ𐀆a֬׳MICǍNṡsGAIsDOIsEsZHOIsDZHOIsZˆsDZұsIsKOKEsLEIsՌOEsNENOEsVOOIsװIsREIsSIIsTAIsUsCѐYsSўIuCўIsYRYs߉sOtOsEFsHAsTSIUsލsYERvItATsIEsYUtAsIAa̻֬׳MICǍN$DOI$Zˆ$NENOE$SII𐀆aUGAٙICǍLPAq˨qGAMLAqӐqͨqHOqWOqߚqHOTAqTETqߎqӃqڔqөqՋqDлq֟qZUqSAMKAqʍqPUqSʈqQOPAqRAڇqܑ֋qОqTOqIqUqSSU𐀂j޻;a֬׳SѱڠArIrUrKAsUrGAsUrXArCArJAsIrTAsUrDAsIsUrܑrPArBArFArNAsUrMAsIsUrYArVAsIrRAsUrLArSArZArڇsSArHA𐀅rAURʦZDAA#-2#HArXSеYˊҶrDAHYAAއ!-2rBAGAsUUMҬm޻;m֚tݙuENuެtѫ𐀫aDEڅω̐ԜI$E$A%H$O%OxژI%E%A&H%O&OxAYxOWxWUx߂xHxװx˟xTEExͦxCэxJEExKAYxGAYxEFxVEExϋxTэxESxZEExυxZэxERyLyMyNzGxOIxEWiںԜI!E!A#H!O#OvژI#E#A$H#O$OvAYvOWvWUv߂vHvװv˟vTEEvͦvCэvJEEvKAYvGAYvEFvVEEvϋvTэvESvZEEvυvZэvERwLwMwNxGvOIvEWaڇVѱԆװPpTOTpKѸpϨpܚGHpSOqUREpCѬCHpYEApHݵpBIBpDEADpGAGpVOWpܓYpZOOpՀEpJUDGEpWOEpHA-HApLֱpMIMEpIFpEGGp˃qDOpONp޹LpזpAHpROARp֟pΝpʉpѷpUPpOAKqOZEqILpAWEqREpORpʎpERRpA٤YpΛpIANpYEWaOڵ֠ǌʗpBApTApJApXApӐpͦLpRApSAqHIINpͭ" ++
  "pCAYNpGApFApQAAFpӂFpLAANpMIINpNUUNpީpHApYApApEpIpOpUpAApEEpOO𐀃i͸oַoݙpѨoЊpҴoګpϔoΥoք𐀇cʉ ̑wIxNwHvBRAv̞vEH̞wwINvHAwYAvIvKAvEѝvKYAvLAvMAvNAvOwINvPAvEHPAvSAwHAvTAvEѩv݋vEH݋vTڇvͭvUvWAvӐvНvZAwHA𐀅gڻuIvNuHtBRAt̞tEH̞uuINtHAuYAtItKAtEѝtKYAtLAtMAtNAtOuINtPAtEHPAtSAuHAtTAtEѩt݋tEH݋tTڇtͭtUtWAtӐtНtZAuHA𐀅aELBAٳǍpBEpCEqHEpDEpNDEpDHEpEIqpFEpGEqJEpHEpIpJEpKEpLEqLEpMEpNEqAqJEpOpPEpQEpREqREpSEqHEpTEqHEpUpVEpXEpYpZEqHEpПrAMMApKHE𐀉aCAUCASѱAL˘ѲLT!BET!GIM!DAT!EB!ZARL!EYN!ߝL!TAS!̞!YOWD!ߛ!IRB!ڇ!ӫ!I֠!XEYN!D޿!̕!JHOX!KAR!LYIT!HEYT!QAY!AOR!̨Y$I#YAY!MAQ!QAR!֖C!DZYAY!ڇK!JAYN!ON!TYAY!FAM!ΘY!̞T!ױ!ПYS!RAT!SEYK!VEYZ!TIWR!ڕY!IWN!CYAW#AYN!YAYD!PIWR!KIW𐀌tCITˎaVITHKUQI ̑yBBEzEyCEzHEyDEzHEyEIzyFEyGA𐀂yHAzHAyIzJEyJEyKAyLAzLAyMEyNEzJEyOyPEyQAyRE𐀂ySEzHEyTEzHEyUyVEyXE𐀂yYyZE𐀂jڻwBBExEwCExHEwDExHEwEIxwFEwGA𐀂wHAxHAwIxJEwJEwKAwLAxLAwMEwNExJEwOwPEwQAwRE𐀂wSExHEwTExHEwUwVEwXE𐀂wYwZE𐁄aԐAȒABɳs2s3s4s5s6s7s8s9r10s1s3s6s7r20s1tFtMs2tFtMs3tMs4s6s7s8p028BpB029r30s1s4s7s8s9r40s1s4s5s6s7s8s9r50s1s3s4s5s6s7s8s9r60s1s5s6s7s9r70s3s4s6s7s8s9r80s1s2s5s6s7p100-102pB118r20p120BpB122s3r31AtBp131CpB164r71r80s8r91p301r2r3r4r5r6r7r8r9AsBsCq10r1r2r3AsBsCr4r5r6r7r8r9q20r1r2r3r4r5r6r7r8r9q30r1r2r3r4r5r6r7r8r9q40r1r2r3r4r5r6r7r8r9q50r1r2r3r4r5r6r7r8r9q60r1r2r3r4r" ++
  "5r6r7r8r9q70r1p400ɲr1ɲr2ɲr3ɲr4ɲr5ɲr6ɲr7ɲr8ɲr9ɲq10ɲr1ɲr2ɲr3ɲr4ɲr5ɲr6ɲr7ɲr8ɲp501r2r3r4r5r6r8r9q10r1r2r3r5r6q20r1r3r4r5r6r7r8r9q30r1r2r4r5r6r7r8r9q40r1r2r5r7r8r9q50r1r2r3r4r5r6r7r9q63r4r5r6r8r9q70r1r2r3r4r5r6r7r8r9q80r1r2r3r4r5r6r7r8r9q91r2r4r5r6r8p600r1r2r3r4r6r8r9q10r1r2r3r4r5r6r7r8r9q20r1r2r3r4r6r7r8r9q34r7r8q40r2r3r4r5r6r8r9q51r2r3r4r5r6r7r8r9q60r1r2r3r4𐀊p701 Ar2 Br3 Dr4 Er5 Fr6 Hr7 Jr8 Kr9 Ls-2 L2t3 L3t4 L4t6 L6q10 Wr1 Xr2 Yr3 ֲr4 ABBr5 BBr7 DDq26 EYYYq32 JE𐀋p800r1r2r3r4r5r6r7𐀙aա ԇAAq۳̷݆$н̷݆qڸEw̏BwBɊ𐀂wDZƪ)ɘ)ɁxϢƪxɛ%џ+ƅ܀wكEw̶ك׃wFκƪwرS ѥw̏GwGɊw̏GɊwHɚw̏HwHκɊwΆJɚƅџwLSƪxZƪxȻˤw̏ӡˤwLɘƅˤxϢ!ɘwݓY&ȻˤwOɚw̏OEw̶ֲwQwݓRɐ^ƅـwRɛ%Ϸџw̏RwTCƪɁxSƪ)ɘxυƪxɘwVȻيџ𐀂w̏YqХɚqكХɚqBIӢIʒqͩʒqLA܏ʒqALVEOLARƣѸqRύɘqڷSɁ𐁆aCYPRI׍۸ArErIrOrUrJA𐀃sO𐀂rKAsEsIsOsUrLAsEsIsOsUrMAsEsIsOsUrNAsEsIsOsUrPAsEsIsOsUrRAsEsIsOsUrSAsEsIsOsUrTAsEsIsOsUrWAsEsIsO𐀂rXAsE𐀄rZA𐀃sOaIM׳ѰARʦICǍԄy˩yРy͝yHEyީyߗyёyܐyߏyӆyӪyՋy֟yٱy˔yPEy٭yأyؿyڔy܆𐀂rپȑr֚yݙzѨzENzެyֻ#Ȧy܎aןMYؼEǍԄr˩rРr͝rHErީrߗrёrܐrߏrӆrӪrՋrϱ֟r֟rٱr˔rPEr٭rأrؿrڔr܆kӻFLϑNkَFLϑNk֚rݙsѨrЊsҴr܍sެaNABˆEANǌϱAԄrAԄrϱ˩r˩rРr͝rϱHErHErީrߗrёrܐrϱߏrߏrϱӆrӆrϱӪrӪrϱՋrՋrϱ֟r֟rٱr˔rPEr٭rأrؿrϱڔrڔr܆𐀉k֚rݙsѨrЊkCRUCIЇ ֙Њk֙Ϲr܍sެrֻ𐀱aHA݀NǍԄo˩oРo͝-ؿoHEoީoZAYNoёoܐoߏoӆoӪoՋo֟oٱoAYNoPEo٭oأ𐀂oڔo܆𐀆h֚oϹo܍pެoֻa׽ENICѲLFsBETsGAMLsͧTsHEsWAUsZAIsHETs" ++
  "TETsߎsӃsӧDsՋs֟sSEMKsʍsPEsSʈsQOFsROSHsڔs܅l֚s܍tެsֻsݙtѨ𐀄l޻ڄaLYDѲoBoGoDoEoVoIoYoKoLoMoNoOoRoSSoToUoFoQoSoTToANoENoLYoNNoC𐀆h݆ԹK𐁁aՎOIܦѓ׻CǍ%E%I%O%YA%WA%BA(-2%PA%MA%NA(-2&E(-2%RA(-2%LA%Ӑ%ђ%SA(-2&E%KA%QA%TA(-2&E(-2&O%DAwۺVIDJ+-2jCURSҴǍyEyIyOyYAyWAyBAyPAyMAyNAzEyRAyLAyӐyђySAyʽSAySEyKAyQAyTAzEzOyDA𐀅rЏήȴ!ֺrLOG֨ RMT!IMNr֚yݙzѨyЊzҴyګzϔyΥyքy܍zެzќyЈzѿyگzϗ𐀃yֻyݟzѨǁyЊǁzҴǁyګǁzϔǁyΥǁyքǁyַȦyݙȦzѨȦyЊȦzҴȦyګȦzϔȦyΥȦyքȦy܎zެȦzќȦyЈȦzѿȦyگȦzϗȦyΪȦyֆȦyֻȦyݟȦzѨǁȦyЊǁȦzҴǁȦyګǁȦzϔǁȦyΥǁȦyքǁȦrЏָTWELFTH!ݙȴ#Ѩȴ!Њȴ#Ҵȴ!ګȴ#ϔȴ!Υȴ!քȴ!܍ȴaKфOSHܚǍlޠIwUwޚ𐀂wEwO𐀆rԂlڠΊٓƜqʸqޗkǏtHAsGAtHA𐀂sCAtHAsJA𐀂s֠sݎuHAsͤuHAs֋sTAtHAsDAtHAsNAsPAtHAsBAtHAsMAsYAsRAsLAsVAsڇtSAtAsZAsHAsKKAsTTܑvAsVHA𐀃lڠ˙ƁqCAݪq΅𐀅lޖlͷrݙsѨrЊl֜tެsֻvȦlЏֺ𐀈lءƬxڶƢx̭x͊ƚxMAվӧxԡx͟yאxԎS𐀈a֬ۉ ʺBѱԆHEzӪzёzՋzأzީzڔzؿz˩z܆zSATzӆz֟zKёz٭zٱzFEzʗ!YNzͭDHEzРz͝zНYNzܐzZAYNzDлϋzߏzܑW#ϋs֚zϬvERICǄe֏ ʺBѱԆяzӧzжzՇzآzީzES-2zغzˡz܉zES-1zӃz֍zӑz٬zES-3zϩzʗ!INz͙zGEEMz͜zОz۾zߔzܒz߃zTяzߓs֚z܍!ެ𐀡aԶI̞EANǍԄs˩tёsРtHIMELs͝sHEsީlڠUDlԆߗtH˔sJ˔tH˔sёsܐsߏsӆsXAPHsӐPHsӪsͭՁHsܑՁHsՋs֟sٱs˔t˔sPEsFEs٭sأsXOPHsQHOPHsؿsڔtڔs܆lʃǔƁ%ˣ𐀅l֚sϹs܍tެsֻlء ۝xFLϑNxΉƬɠƬzTɠƬ!xݛxԏϰ𐀊aAVES܂ǍqAqOqAOqNqANqErEpEqEpOqOpIqIpUqUpKEpXEqYEqVEpGEqGEqHEpCEpJEpTEqHEpDEqHEpTTEpPEpFEpBEqHEpNGErYErVEqEqYEqNEpMEpHMEpYYEqEpVEpREpLEpSEpZEpڍpߜpSHYEqڍpHE𐀄iʃǔaܯY ݛǴַƭaڷݛǴַƭaӭݛǴַƭgַƬǴݛ " ++
  "ءgݚٓSǴָٔءgָٓǴݚٓS ءaINSCRIPܱʑ׫HѲԄ&˩&Р&͝&HE&ީ&ߗ&ё&ܐ&ߏ&ӆ&Ӫ&Ջ&֟&ٱ&˔&PE&٭&أ&ؿ&ڔ&܆𐀃x֚&ݙ(Ѩ&Њ&܍(ެ&ֻ+ȦqHLAVIǍԄ%˩%Р%͝%HE%ީ-˔-ؿ%ߗ%ё%ܐ%ߏ%ӆ%Ӫ%Ջ-أ%֟%ٱ%PE%٭%ڔ%܆𐀆w֚%ݙ&Ѩ%Њ%܍&ެ%ֻ)ȦaPٮ܏ǵHLAVIǍԄx˩xРx͝xHExީ-˔-ؿxߗxёxߏxӆxӪxՋ-أx֟xٱxPEx٭xڔx܆𐀈qٿqݓٿqЌȻ͌(΃𐀍q֚xݙyѨxЊx܍yެxֻ𐁑a֬ݑKICǌ׉s߇#Es׈Is߆I!Es׈O!Es߆OEs׉Bs߇Bs׉EBs߇EBs׉Gs߇Gs׉EGs߇EGs׉Ds߇Ds׉EDzEZs߆EZs׉Ys߇Ys׉EYs߇EYs׉EKs߇EKs׈OEKs߆OEKs׉Ls߇Ls׉ELzELT!MzAN!ENs߇ENs׈λs߆λs׈ENCs߆ENCs׈ENYs߆ENY!ʮs׈κs߇κs׈EPzOPzICzECs߆ECs׉Qs߇Qs׈IQs߆IQs׈OQs߆OQs׉Rs߇Rs׉ER!S!ES!SHs߆˃s׈υs߆υs׉Ts߇Ts׉ETs߇ETs׈OTzB˃𐀸eHUNЙѱ̑&A%EB%AMB%EC&NC&CS&D%ʭ%E%̵E E%EE&F&G(Y&H%I&I%EJ&K%AK%UNK%EL(Y&M&N(Y%O&O%N҄OE%٥OE%OEE%EP&MP&R%ژER%ES(Z&T&NT&TY&CH%U&U%N҄UE%٥UE%EV&Z(S&NTɬEDȑ%US𐀎oڻ$A#EB#AMB#EC$NC$CS$D#ʭ#E#̵E E#EE$F$G%Y$H#I$I#EJ$K#AK#UNK#EL%Y$M$N%Y#O$O#N҄OE#٥OE#OEE#EP$MP$R#ژER#ES%Z$T$NT$TY$CH#U$U#N҄UE#٥UE#EV$Z%S$NTɬEDȑ#US𐀈o֚vϹv܍vϬvֻyȦaHANIFIȇHҗYAǍxBAxPAxTAyTAxJAxCAxHAxӐxFAxDAyDAxRAyRAxZAxSAyHAxKAxGAxLAxMAxNAxWAxKI֋ȸxYAxKI֋ YAxվyYAxVAqޟAwIwUwEwOqԺSAKINvNA KHO֋qڠфBAHAYv۾ʔxNAxSSI𐀉q͸wַwݙxѨwЊxҴwګxϔwΥwք𐄧a٦I ͷlݙmѨlЊmҴlګmϔlΥlքf֜nެnќmЈnѿmگnϗmΪmֆmֻmݟnѨǁmЊǁnҴǁmګǁnϔǁmΥǁmքǁfЏֺsاsܜoݡ𐀂aYEZIDIǌίFoBEoPEpHEoܓoSEoCIMpHIMqHIMoђoXAo͜oZALoRApHAoZAoJAoSINoڔpADo͙oTAoZEoEYNoXHEYNoFAoVAq ʤЇoآoӃpHAFoGAFoӧoMIMo֟oUMoީoOWoEWoHAYoYOToET𐀂h̻рǔrԯǔhѮˎ𐀃hԆӧɇ"

def namePart5 : String :=
  "oYOTȿƁ𐁏a֬SOGDѲԄtϱAԄt˩tϱ˩tРtHEtϱHEtީtߗtёtߏtӆtӪtՋt֟tϱ֟$Ȼޏ܀tٱt˔tʤ˔tPEt٭tϱ٭&Ȼޏ܀tؿ-˔-͝tڔt܆tϱ܆$Ȼޏ܀m֚tݙuѨtЊuҴt܍uެuќtֻmЏֺmԊ˔-͝𐀉aSOGDѲԄp˩pРpHEpީpߗpёpߏpӆpӪpՋp֟pٱp˔pPEp٭pؿ-˔pڔp܆pFϋpLυiҎEױͩ ڔi̻΅sݝs΄sݜs͕ƁyˣsџƁxˣsԜџƜsؿƜs۩Ɯi֚p܍qެpֻiء ݚސS<ɆSṷɆuݙƢSɆSuмƢɆ𐀗a֬UYGѬǍԄs˩sР-ёsީsߗsϱёsߏsӆsӪsՋs֟sٱsPEs٭sؿsڔs܆sLυl̻΄zˣvݜ&ˣlءƚxݙƚSxݛxЌ𐀧aCѠASMѲԄsڸԄs˩sРs͝sHEsީsCURLΟީsߗsёsߏsӆsӪsՋs֟sٱs˔sPEsؿsڔs܆l֚sݙtѨsЊs܍tެsֻ𐀕aELYMAICǍԄp˩pРp͝pHEpީpߗpёpܐpߏpӆpӪpՋp֟pٱp˔pPEp٭pأpؿpڔp܆iԊߗ-ߏ𐀊aBRAHMIȒ̍mʸmޗmJ҃mݿAgǍpAoIpIoUpUoޚxRwLxLoEoAIoOoAUoKApHAoGApHAoվoCApHAoJApHAo֠oݎqHAoͤqHAo֋oTApHAoDApHAoNAoPApHAoBApHAoMAoYAoRAoLAoVAoڇpSApAoHAoԘo֯LԘy٤yN֋hޡs˫TTIؚLU AAsItIsUtUsޚ#R!L#LsEsAIsOsAUhޖh͟iאhءƬu׏΃tԎt͊ƚtԡ𐀅h֚oݙpѨoЊpҴoګpϔoΥoքo܍pެpќoЈpѿoگpϗoΪoֆoֻrȦh͸nַnݙoѨnЊoҴnګoϔnΥnքhڠ֯ޖhԆ֯ژE&Ohޠ֯ژE.OhԆ֯Ԙ𐀊h֙ҾaKAIܚȒ̍mʸmޗgǍpAoIpIoUpUoEoAIoOoAUoKApHAoGApHAoվoCApHAoJApHAo֠oݎqHAoͤqͭqHAoRHAo֋oTApHAoDApHAoNAoPApHAoBApHAoMAoYAoRAoLAoVAoڇpSApAoHAhޡsItIsUtUsEsAIsOsAUhڣm֗hʄhE֝ˍȑh֛hٿhΊٿh͟iאhޠޚ𐀋h֛Ɓ𐀃aSORA SOMPκǌSAHu۾uBAHuCAHuDAHuGAHuMAHuվHuLAHuNAHuVAHuPAHuYAHuRAHuжuKAHuJAHu֠HuAHuEEHuIHuUHuOHuEHu԰𐀈n͸tַtݙuѨtЊuҴtګuϔtΥtք𐀇a̞KMAȒ̍mʸmޗgǍAoIoUoEoӂpеoGAApеoվAoCAApеoJAApеo֠AoTۼqеoͤAqеo֋AoۼpеoDAApеoNAAoPAApеoBAApеoMAAoYYAApAAoRAAoLAAoޤoSAAoеhޠAsItIsUtUsEsAIsOsAUsOIhOǔhAUǔhޖhMAAYYAA𐀂h͸nַnݙo" ++
  "ѨnЊoҴnګoϔnΥnքhٿh͟iאhتhԆLеhޡsEIhԆVAA𐀉aMAHAJANIǍqIqUqEqOqKArHAqGArHAqCArHAqJArHAq֠qݎsHAqͤsHAq֋qTArHAqDArHAqNAqPArHAqBArHAqMAqRAqLAqVAqSAqHAq٤jڢjʄjٿjԊSHRI𐀊aڌADAȒ̍nʸnޗhǍqApIqIpUqUpޚyRxLyLpEpAIpOpAUpKAqHApGAqHApվpCAqHApJAqHAp֠pݎrHApͤrHAp֋pTAqHApDAqHApNApPAqHApBAqHApMApYApRApLAqLApVApڇqSAqApHAiޡtIuItUuUtޚ$R#L$LtEtAItOtAUiڣnˑnJ҃nݿAiOMi͟jאiʄiڄjʭHIǔiڢiޟաǔiEX݀ ژޞǔiSU݀ǔiޠPٗiڠҥ̍i͸oַoݙpѨoЊpҴoګpϔoΥoքiEKAMiڠڜiц۩ìܯUˍȑiٿ-1v2𐀂bINHʔ ʽͷwݙxѨwЊxҴwګxϔwΥwքq֜yެyќxЈyѿxگyϗxΪxֆxֻ!Ȧ𐀌aKHOJKIǍpAoIoUoEoAIoOoAUoKApHAoGApGApHAoվoCApHAoJApJA𐀂o֠oݎqHAoͤqHAo֋oTApHAoDApͤpHAoNAoPApHAoBApBApHAoMAoYAoRAoLAoVAoSAoHAoԘhޡsItIsUsEsAIsOsAUhڡmޖm֗mڇͤh͟iאh޻ڄhٿhΊٿhʄhڠSݭN𐁂aMUL܂IǍpIpUpEpKAqHApGA𐀂qHA𐀂pCAqHApJAqJA𐀂p֠pݎrHApͤrDArHAp֋pTAqHApDAqHApNApPAqHApBA𐀂qHApMApYApRApLApVApSApHAp٤qHAiٿ𐀇aKHݪWADIǍsArIsIrUsUrErAIrOrAUrKAsHArGAsGAsHArվrCAsHArJAsJAsHAr֠rݎtHArͤtDAr٤rDͭr֋rTAsHArDAsHArNArPAsHArBAsBAsHArMArYArRArLArVArڇsArHAkڡkޡvIwIvUwUvEvAIvOvAUkڢpޖ𐀆k͸qַqݙrѨqЊrҴqګrϔqΥqք𐀇aЩNܑȒ̻ʸƁn̍nʸnޗ𐀂hǍqApIqIpUqUpޚxL𐀃pEEpAI𐀃pOOpAUpKAqHApGAqHApվpCAqHApJAqHAp֠pݎrHApͤrHAp֋pTAqHApDAqHApNA𐀂pPAqHApBAqHApMApYApRA𐀂pLAqLA𐀂pVApڇqSAqApHA𐀂a̻BҎUƜaЩNܑ ڢnˑiޡtIuItUuUtޚ$R𐀃tEEtAI𐀃tOOtAUiڣ𐀃iOM𐀇iAU Ԃ𐀆iڠPԫAiԆތʸvΊʸpޚRxLLiޠޙL$L𐀃a̻ЩNܑ ͸yַyݙzѨyЊzҴyګ𐀄rǍzKAzNAzVIzPA𐂌aսAǍnAmInImUnUmޚv" ++
  "RuLvLmEmAImOmAUmKAnHAmGAnHAmվoHAmCAnHAmJAnHAm֠oHAmݎoHAmͤoHAm֋mTAnHAmDAnHAmNAnHAmPAnHAmBAnHAmMAnHAmYAmRAnHAmLAnHAmWAmڇnSAnAmHAfޡqIrIqUrUqޚzRyLzLqEqAIqOqAUfڣk̍kʸkޗk֗kˑkϱʸfOMfSIDDHIf͟gאf̼fGʹϰfʄf͸lַlݙmѨlЊmҴlګmϔlΥlքg׏̼f؅Hְǔ𐀂fINڅܱȑfSʭHIǔfԆތʸfڠJ҃kݿA𐀟aTIRHUTA ANJIhǍqApIqIpUqUpޚyRxLyLpEpAIpOpAUpKAqHApGAqHApվpCAqHApJAqHAp֠pݎrHApͤrHAp֋pTAqHApDAqHApNApPAqHApBAqHApMApYApRApLApVApڇqSAqApHAiޡtIuItUuUtޚ$R#L$LtEtژEtAItOtژOtAUiڠ̍nʸnޗnޖn֗nˑiGVʮiʄiOM𐀉i͸oַoݙpѨoЊpҴoګpϔoΥoք𐂧aڜǍqApIqIpUqUpޚyRxLyLpEpAIpOpAUpKAqHApGAqHApվpCAqHApJAqHAp֠pݎrHApͤrHAp֋pTAqHApDAqHApNApPAqHApBAqHApMApYApRApLApVApڇqSAqApHAiޡtIuItUuUtޚ$R𐀃tEtAItOtAUiڠ̍nʸnޗnޖn֗nڜi͟jאiڄƬs˙iؽ-1y2y3iιǔiٿȻ݃ͩƅUɬEDǳS=·Ʀ!RAYSƅ·Ʀ[ΉƦ[݇ƦvΊٓ)ȻRAYSuȻΉƦ!݇Ʀ!ئƦ!SEPTU؆Ʀ!̭SƅRAYS=ݚζؾ=ЋζؾiԆܞ-̮ʤIqWO-̮ʤI<IpʤUiޠʤU&U𐀣aMODIǍnAmInImUnUmޚvRuLvLmEmAImOmAUmKAnHAmGAnHAmվmCAnHAmJAnHAm֠mݎoHAmͤoHAm֋mTAnHAmDAnHAmNAmPAnHAmBAnHAmMAmYAmRAmLAmVAmڇnSAnAmHAmԘfޡqIrIqUrUqޚzRyLzLqEqAIqOqAUfڡkޗkޖkARͭ̌f͟gאfʄfڠHUVA𐀌f͸lַlݙmѨlЊmҴlګmϔlΥlք𐀇cւLѱˮɔkٝˮkΊˮɔk݈ˮɔkˮȻΉǳkٝˮɔ%ΉǳkҥˮyȻΉǳk۷ˮvɔ#Ήǳkݓ۷ˮȻΉǳ𐀔aTAKRIǍoAnIoInUoUnEnAInOnAUnKAoHAnGAoHAnվnCAoHAnJAoHAn֠nݎpHAnͤpHAn֋nTAoHAnDAoHAnNAnPAoHAnBAoHAnMAnYAnRAnLAnVAnڇoAnHAn٤gڡlޗgޡrIsIrUsUrErAIrOrAUgڣl֗gԆʽӐgʄ𐀇g͸mַmݙnѨmЊnҴmګnϔmΥmք𐀷aAHOMǏnHAmվnAmTAmʤTAmPAnHAmBAmMAmJAm̞m" ++
  "ܑmRAmLAmSAm֠mHAmAmDAnHAmGAmʤGAmНm˫mҼmʤBA𐀃f̓ՂLA#RA#LIGAܰȄfޠArAqIrIqUrUqEqAWqOqAIrMfڠK҇ER𐀅f͸lַlݙmѨlЊmҴlګmϔlΥlքf֜nެfڠڷپkپkRݮIfۺVIfԆCAmݎoHAmͤoHAm֋mԘ𐂺aDOЩǍoAnIoInUoUnEnAInOnAUnKAoHAnGAoHAnվnCAoHAnJAoHAn֠nݎpHAnͤpHAn֋nTAoHAnDAoHAnNAnPAoHAnBAoHAnMAnYAnRAnLAnVAnڇoSAoAnHAn٤gޡrIsIrUsUrޚ!RrErAIrOrAUgڡlޗlޖl֗gʄ𐁥aWARʯCITI ̐վA#A#WI#YU$A$O#II#UU#E#O#ʮ#GA#KO#ENY#YUJ#UC#ENN#ODD#TTE#Nݵ#DA#AT$M#BU#PU#HIYO$OLO%RR$AR#SSUU$II#VIYOmںվAzAzWIzYU!A!OzIIzUUzEzOzʮzGAzKOzENYzYUJzUCzENNzODDzTTEzNݵzDAzAT!MzBUzPUzHIYO!OLO#RR!ARzSSUU!IIzVIYOm͸sַsݙtѨsЊtҴsګtϔsΥsքm֜uެuќtЈuѿtگuϗtΪtֆ𐀍mOMaDҴS AӠUǍuAtIuItUuUtE𐀃tO𐀃tKAuHAtGAuHAtվtCAuHAtJA𐀂t֠tݎ𐀂tͤvHAt֋tTAuHAtDAuHAtNAtPAuHAtBAuHAtMAtYAuYAtRAtLAtVAtڇuSAuAtHAtԘtZAmޡxIyIxUyUxE𐀂xAIxO𐀃mڡr̍rлʵmޖmPREϻǛSʓmՂYAmқRAmՂRAmڢmDאmGʹϰmιǔ𐀊m͸sַsݙtѨsЊtҴsګtϔsΥsք𐁇aNʭINAЙIǍuAtIuItUuUtޚ$R𐀃tEtAItOtAUtKAuHAtGAuHAtվtCAuHAtJAuHAt֠tݎvHAtͤvHAt֋tTAuHAtDAuHAtNAtPAuHAtBAuHAtMAtYAtRAtLAtVAtڇuSAuAtHAtԘt٤mޡxIyIxUyUxޚ)R𐀃xExAIxOxAUmڡrޗrޖrˑrڜmц۩mޠPٗ𐀜aZʪBAZAR ۑǍrޠI$UE%$E$OE%$AI%U$كIxԂqǏzHAyGAzHAyվyCAzHAyJAy֠yݎ!HAyͤ!HAy֋yTAzHAyDAzHAyNAyPAzHAyBAzHAyMAy݋!HAyΘ!HAyߛzAy-AyYAyRAyLAyVAyڇzSAzAyHAyKۖrϱ͂ǔrڣw̍+ɔ$ɔwʸwޗrCLUۡ-қԆRAzϱԆYA=RA=LA=VArқчr̵ҘчrԺݍwڈwΊڈwԜݍrқΉ-ԎD чr̵ҘΉ-ԎD чr۫R𐀉aSOYOMBOǍiޠItUEutEtOuEtAIuUtޚ#LoԂhǏqHApGAqHApվpCA" ++
  "qHApJAqHAp֠pݎrHApͤrHAp֋pTAqHApDAqHApNApPAqHApBAqHApMAp݋rHApΘpߛqAp-ApYApRApLApVApڇqSAqApHApKۖiڠJ҃nݿAiCLUۡ-қԆRA(LA(ڇ)Aiϱ̓G%K%NG%D%N%B%M%R%L%SH&%-AiڡnޗiКˎi۫RiԺݍnڈnΊڈnPԫAiчȻեƅ۲ƅ݈FLʧ?FLʧ:i܏MҌǔ-1w2𐀎aCʫCSǛTTILIK HI&I%O&O%A&A$SHRI)I(O)O(A)AtSPEvIvOvAaPAU CINƼUǌPAtKAtLAtMAtDAtZAtVAtվtHAtGAtӐtSAtBAtCAtTAuHAtNAt׺tRAtFAt̞tAtEtItOtUuAtIAtϱPzKzTzMzNzLzWzNGzYm٘ܶԛxmSʭHI Хm٘ܶԜFҌyFҌmSʭHI Х FҌtܶԛxx ԜFҌyFҌmMID-ԈܵmХ ފNTmMID-ԈܶԜFҌ#FҌmԢ-ϥܶԛ$mХmԢ-ϥܶԜFҌ%FҌmХ FҌ𐄈a˫IKSUKIǍsArIsIrUsUrޚ!RzL𐀂rErAIrOrAUrKAsHArGAsHArվrCAsHArJAsHAr֠rݎtHArͤtHAr֋rTAsHArDAsHArNArPAsHArBAsHArMArYArRArLArVArڇsSAsArHAkޡvIwIvUwUvޚ&R%L𐀂vEvAIvOvAUkڠ̍pʸpޗpޖpˑk͟lאk޻ڄkGʹϰ-1v2𐀋k͸qַqݙrѨqЊrҴqګrϔqΥqքk֚rݙsѨrЊsҴrګsϔrΥrքr܍sެsќrЈsѿrگsϗrΪrֆkѫS Uևǔ𐀄aԹCHδчiԺڈhǏqHApGApվpCAqHApJAp֠pTAqHApDApNApPAqHApBApMAp݋rHApΘpWApߛqAp-ApYApRApLApڇqApHApA𐀃i۫DǏ!HAzGAzվzCA!HAzJAz֠zTA!HAzDAzNAzPA!HAzBAzMAz݋#HAzΘzWAzߛ!A𐀂zYAzRAzLAzڇ!AzHAzAiޡtItUtEtOiڡn̍𐁊cSAر GONDIǍwAvIwIvUwUvE𐀂vAIvO𐀂vAUvKAwHAvGAwHAvվvCAwHAvJAwHAv֠vݎxHAvͤxHAv֋vTAwHAvDAwHAvNAvPAwHAvBAwHAvMAvYAvRAvLAvVAvڇwSAwAvHAvԘvKۖvJ֠v݀oޡzI!IzU!Uzޚ𐀄zE𐀂zAIzO𐀂zAUoڡtޗt֗ťtлʵoޖoRE׺pA-Kʺ𐀉o͸uַuݙvѨuЊvҴuګvϔuΥuք𐀇aGUNJʔ GONDIǍwAvIwIvUwU𐀂vEEvAI𐀂vOOvAUvYAvVAvBAwHAvMAvKAwHAvTAwHAvLAvGAwHAvDAwHAvNAvCAwHAvݎxHAvԘvJAwHAvͤxHAvվvPAwHAvHAvRAvSAo" ++
  "ޡzI!IzU!U𐀂zEEzAI𐀂zOOzAUoڡtޗoޖoOM𐀈o͸uַuݙvѨuЊvҴuګvϔuΥuք𐄷aMAKASARǏpGApվpPApBApMApTApDApNApCApJAp֠pYApRApLApVApSApAiAցAiޠItUtEtOiP˄IMBʮiθپ𐂸aLISUǌYHA𐀐aTA՚ Џָܞ-ѫ-ʭ-ݗtַ-ѫ-ʭ-ګTIϋtΥIϋtگ-ЎtF׊IϋtTќ-ٽpܟΥIϋSvگ-ЎSpָݗtڮ-1%2tTλHtΨpܟݗSvڮSpָϫtاtм-1y2pܢp΍SCAԑƲCܾ KIIZHgڠNELlCEVITUlAAZеKKUlUߛKKUlMUUVUߛKKUlKU٧IlPˋKKUlMUKKU٧IlӂCUlPʪMmONlVʺAӅlPAAرlKUߝlVίgWωCݰIVˍȑgD٩CݰIVˍȑgLʭȑgٯǵNȑg݀DIܱʑCطITȑs֛gCURRλȑfƅODDȑgSײȑgTOTʓgINǺSSESڨȑg۝ܰƷȑgڠMUܒҶlVAKAIYʺA𐀎gء ιaCUNEIЇȒAqȪx˖xЗxHAxҁxӥƻxMއxSAGq2qBrȫ2yDUN3ƻyДyЗyHAy҂z՜yӣABySHυyUǸUǸUrƻr2sȩBAӣzЗzMEǸENzڇ3z܁qDqKrȩEْ2ySHұǸСqLrȪLyDIM2yСyHAyKAD3zIyڍyއrANqԄqԹtȩڍqNrǴANsܟܭs؇ǛGA ׄANǸNAGA$۔rڍq؁qRADtȩӠrKABqٮ2rHs ZIDAȥtKABAȥsǴ˃ ݐǴݐ ݐǴݐ ע#Ǵ˃; ͎˃Ǵ˃Ǵ˃s2sGABpBArDrG3rф2rLsǴBALsAGrRsA2qIrȪyЙy҂qUrǴBU AB!UNs͎BUrLUGuǴBݱGrRs2pDArGs ӘȪǸM˃+Թ)BAӣ+I)GA.ǸM˃+I.R2+UD)HA)IR.ǸLU)ӄ)LA+U.ǸM˃2.M)NE)עǸע)SI)܁)U2ǸGIR2+SHrMrRsA3t4qIrBrMsȩڍs2rNs ӊ Uƻ ͼrSHqUrǴDUrƻsڐrBsȩφs2rGsUDrHrNs3tƻyƻs4rR2pEqȩעqǴE ֟Ǵ֟q2rȪǸHAǸDAyЙyMIyٮzHEyUqDINqGIRqLqNrȩЖ2$ȥyMEs͎ENsׄENs۔qؼrIN2pφqߘtȪ#ǸLAL;ȩLAL#N!˖!DUN3ƻ:ƻ!HA$ƻ!҂!ӊ) ۔#U3!LA$LȩLAL#I#U!U2#DpGArƻr2sȪǸDAǸHA)HA)ҁ!B2ȥǸ۽!N!SH$2ǸДz˖#RǸRA!UR$ǸRAzDA!I#Mȩڍ!UBzEL#ǸLA!N#ȩЗzЗ#R!I#4$ǸA#R2ǸSUzHAǸLUǸφ#L$ǸLA!IǸLI!UB2z҂!SHǸHUǹzӄzӊ!ID$ǸLAL!U3ǸANzLAzMEǸEN!Iz֟$Ǵ֟zPAzٮ#R!HE$Ǹݑ#ID!UMz܁zU!D#ǸDUsǴGA2rBAt " ++
  "͎GABArDoƹƺrLsƹƺsAMrMrNs2tȥtǴЖ2u͎Ж2rRs3rڇNqυܯwȩӠqIrȩEyUs͎GIr4sǴGI4t͎GI4rDIMrR2tƻs3tȪǸҁ!З!ҁ!LUǸҁ!PArٮsHt ͎Сtȩ˖!܁tȥqUr ͎GUr2sȩӄ$ȩ҂z֟zٮǸݐsƻrDsȪǸӠzӠsǴGUD LUДrLrMsȩڍrRs7sUNtSHpHArȥrƻrLqIrȫ#2y˖yͼyGADyKINy֟yڍyUqUrB2tȪN!л!ӊ!LҬ!UDrL2pIq AqBqDIMtǴIDIM ̇&۔qGrIs DIBtRIsǴҁ ڑRǴڑR UDǴUDsƻqLrȩЗr2qMrȩ܁s͎IMsׄIMs۔rINqNqRqSHpKArȪzD!ǸKU3zSH2y˖!ӣ!RzIyEْ2yφyGA!LyЗ!R#Ǹڇ3ǸAzI!R2!SHǸSAR%͎СzU!R7yҁzMyӄzI!DyLIzUyME!ǸDU)GI)TEzI!Ǹ֟UZyNEzUNyPIyRUySA!RzHA!E!ID!UzIGzUѬy܃yUz2zDzMUMȩPAzSHyZIr2s ͎KA2rBrD2s3s4s5tǴKAD5rKsȩ҂rLsȩ˖t͎KALrM2s4pӊv ӤUǴӤUvǴӊ ӤUǴӤUqφqIrȩ˖yUzDrDrNrٮsHpӘvǴӘqUrǴHIȫ2 KUǴHIȫ2r3r4sȷr7rLsƻrNrRs ׄӠrڛ2qWU318pLArGABuȪ$ǸDAǸHA.Й.LAL$L$N$SH ZIDAȥ#˖$I#DAR#EN#GA%R$UD&ǸGUD#HA%L$Iȩ֟#҂$M%ǸHA:LU#KI%N$U3%L&ǸHIǸA#ӣAB$Ҭ$U%L#ME%ǸEN$އ#NE#ڍǸ۱%ұǸСǸEْ2[ȥ%U2(Ǹڛ2$UM#TAG%K4$EǸAǸSUǸNA#U$ǸA.UǸU$2ǹ$D$SHv۔tRuȩڍ&Ǹ۱uƻzǴӥƻ ڍrHڛrLsȩLALrMsȩӠ$ǸRUqIrLrMMU2rSHqUrȩ˖r2sȪLz˖zφ%ȥzЗzHIȩ˖zIMzKAD2$3%ǹ!IzLAǹ#GABzMEǸENzNE!UzSIǹ#K2ǸBUzݐsȥt͎LU2tׄLU2t۔tڐr3rДuǴLUДvׄLUДvڐrHrLrMsǴԩ#ƺpMArȩ܁rƻr2rHrRrSHt2qErSqIrNqUrǴMUrGsƻrNSUBrRGU2rSHtȪ!Ӡ!ZAtǴMއ%ȪǸNAu͎Mއt3uȪ$ǸDI#DIuƻpNAr2rGAt INލTEDtȩڛȥuׄNAGAtRrM NUT҇Uss2qErȪyUDsڐqIrȩEr2rMsȩЗ#RǸЗrմ2vȪN%SH(ǹ$GUD$MEǸЗ$NE%UN$ڍ(ǸA AN=SH?ǹ$U2ǹ%SHrSAGqUr11rNs ӥȩЙ(M˃(ٮ.Ǵ֟ ӥȩٮ(އsȥsǴ֟t͎֟( ӥǴӥsUZu AB2ȫGAB(BI(DUG(GUD(҂(KAD3(LA(NE(S" ++
  "ILA3(U2vӘȩBI; UpPArDrNrPqφqIrȪzByBIzUyEyIzByUz2s͎PIrRIGuȩKAL#UD#ZAvׄPҪGpRArBqIqUpSArG NUT҇UssȪzDU#BzHAzӄ!URzԩzMIz֟zٮ!HIDz۽zU2!B!M!R!SHsǴSAGsƻrLs Ӥ˃2rվ2rRqHAs3tȪ!˖!С!NE!ڛ2!ݑ!U#ǸAs6sB6sR2rEs HUsǴڍƹƺ$۽Ǵ۽ƺsG9sNsSHu2uӧrIDtȪ!IMsMtȪ!BAL#ݱG!DIN!Й!ҁ%ƻ!KUڛ2!LUL!MUG!ٮsNIGsRtȥtǴڑR ̇Ǵ̇sTArUsǴҥڛs2ṡqIrƻrGs4tǴSIG4 ڛ2rK2rLA3qUrǴSUrDs2rѬrMs˃rRs9pTAr ˅rȩHIyMIrƻrBsǴ۽ NIǴNI ͼǴͼt۔rGsȩBIzGUDzڍ#UzݐzUDrK4rRqErƻqIrȥrLrRsȩ܁tיȨR#ƹƺqUrG2rKrMrRsǴݑ ZAǴZApUq GUDrU UqǴUǵǴPAƺySURǴSURyU فDǴU فDq2qBqDr KUڛ2rȩ˖yMIyUǸUǸU>ƻrƻsڐzȩ˖rUGqMrȩӣAByMEǸDAyڇ3yUrBINrUMtȩӊ!PAqNrƻqRr ͎URsڐr2sȪǸHA)NA!LzHAz֟zU2#ǹ+BIr4rIs3rUsȪ!SHGABz˙zDUNzGA#LzЗ#R!UzHAzҁ!M!SHzKIzԩz՜zPAzڍ!IG4zTUzUǸGUD!D!RݪsDAuȩUqSHsȪzKU#Rz܁sXs2sUMXqTUKIqZ3sȩӊrUpZArȥs۔ȩӠrGrMXqE2qIrǴZIr3rBsǇBAȥrGrZ2qUr5sȪṙrMpKʹEӧITEpABȩ֟r2ȪqԹȩKUGp͚ ӘȩU2ǸM˃s3qҬǸڛqUBȩڍpEߘȩGUD!ڍpGA2ȪNǸӄǸA!SH2qE22qIGpHއpKAȪNڍzSH3yСzUDyHIȫ2yԩyPAyڛLyTUyUR2pӤGIqU2 ڐȩ˖sȩφǸLALzڛpMυqއ3ȩZApNA4qINs9sDA2ȩBAL$GIqU11 ٞpPφ ˅qIR2pSAGȩ҂pTI2pUMȩMEq U𐁧k֝ICȒݚ˃xܟ˃xЋ˃yҵ˃xڬ˃yϕ˃xΦ˃xք ˃xܟͼxЋͼyҵͼxڬͼyϕͼxΦͼxք ͼxЋUyҵUxڬUyϕUxΦUxք UxָGφxݚGφxܟGφxЋGφyҵGφxڬGφyϕGφxΦGφxք GφxָGEڛxݚGEڛxܟGEڛxЋGEڛyҵGEڛxݚڌ2xܟڌ2.ȷxЋڌ2yҵڌ2xڬڌ2yϕڌ2xΦڌ2xք ڌ2xָڌUxݚڌUxܟڌU.ȷxЋڌUyҵڌUxڌ2ȩДǸͼ^՜ẋָUxݚ̇Uxܟ̇U+ȷxЋ̇Uyҵ̇Uxܞȷ υ16_21xЊȷ ԍMU|4| A~Bxګȷ ˃9yϔȷ I՜3| A~BxΥȷ USSU|3xքȷ " ++
  "IԍMU~3~4~ Axݚ˃ȥxܟ˃ȥxЋ˃ȥyҵ˃ȥxڬ˃ȥxָ˘2xݚ˘2xܟ˘2xЋ˘2)ȷyҵ˘2)ȷxNҁDA՜%υxָEڍ3xݚEڍ3xָܜ ͼxݡ ͼxFҵګTHS ͼxָܜȷ Axݡȷ AxָΨ ˃#ا ˃x֬˄YRѱָګTH?اxּ GUR#нGURxEӧITE ָܜ(ݡ(Ј)ѿxЋUȷyҵUȷxڬUȷyϕUȷxΦUȷxք Uȷ𐀂kءȒ֬˄YRѱ޻;#ޏ̷#ͱ̷;̷݃;ؤ̷𐀌kڠABȩ֟ȥyڛ2qDȩφp˖ȩͼȥrф2ȪB2$NI$ZAqUǴBUȩNA2pDAȩ܁rGȩӠqIMȩҁzU U Us2ȩUDqUGȪNڍ!SH$ƙӲzDIN!UNzEْ2zGA!I#R2ƻ#SHzHA!Iz҂zӊ!UR#ڛ2(ǸӊzӦ-020#M$ȩӠ!UHǸСzM˃!ES!IzNIzPIzڍ!IƻpE2ȩӠyעqْ2 Xpφ ͎φqZδڐȫ.HI.҂.LA;L.ME;S.SUuܭțpGA2ȩBAф2zDIMƻ!UGȩ҂:ӊzEؼzGA#RǸDI.NEzHAǸAzKUڛ2Ǹӊzӧ$ȩӠ!UHzMއzNE#ǸE2+GIzڑMzZIZ2rBA ٞqυܯȩUqҬȩС ͎СqU2ȩ҂rDǸСȩ܁pHAȥƻqIȫǴHIȫpKAȩBUyKAyU U UzRpӤZUǴZUrKɢ3u21v5u30u50v1u62u79ǴӦ-079ƻu80v1ǴӦ-081u92t130u42t210v9u20v5v8u38u65v6t343v7v8u83v4u90t441v9wȩGU%ҁ%ף=ף%U2ǸBAu50v7u70u83u90v2v3v5t550t608u17wȫ%˖%DUN3ƻƻ%KU3%LA%܃&E%U2&D&Rݪu36u48wȩDUB%GA%ҁ)ƻ%NI%עǸף%SHυǸKI%UD&Rݪt724u49qU2ƻȫsȩͼzлzע$Ǹףz܁pMIǸZA7qއǴMއȩGA;ӄpNIմ2ȩDIMƻ$С%UL$HI$Kφ$Ӧ-050$M˃$עǸע$U%ǸU%RݪpSAGƻȩHAsȩENzڍƙӲz܁qHA6ȥrEǴڍsǸHUB2yNAM2ySARrU2ǸDUGȩNIzE2ȪNqIȩ܁p܁ǸSAGqUMȩЗzܟͼpUR2 INލTEDsȩUDrUȩDʺ3zӦ-668!U3pZA7qUǴZUǸSARr5ȩܟͼȥ𐩍bYؚ-՜OANȒCMɳw2w4w5w6w7w8w9v10w1w2xBw3w5w7w9v21w3w4w5w6w7w8w9v30w3w4w5w6w7w8w9v40w1w4w6w7w9v50w1w2w3w4w5w6w8w9v60w1w2w3w4w6w7w8w9v70w1w2w3w4w5xBw6w8w9v80w1w2w3w4w5w6w7w8w9v90w1w2w4w5w6w7w8w9u100w1w2w3w4w5w7w8w9v10w2w4u301w2𐀎aEGYPTѱѓPH Aɳx2x3x4x5yAx6y" ++
  "AyBx7x8x9w10x1x2x3x4yAx5x6x7yAx8x9w20x1x2x3x4x5x6x7x8x9w30x1x2yAx3x4x5x6x7x8x9w40yAx1x2yAx3yAx4x5yAx6x7x8x9w50x1x2x3x4x5x6x7x8x9w60x1x2x3x4x5x6x7x8x9w70uBɳx2x3x4x5yAx6x7x8x9uCɳx2yAyByCx3x4x5x6x7x8x9w10yAx1x2x3x4x5x6x7x8x9w20x1x2x3x4uDɳx2x3x4x5x6x7x8yAx9w10x1x2x3x4x5x6x7x8x9w20x1x2x3x4x5x6x7yAx8x9w30x1yAx2x3x4yAx5x6x7x8x9w40x1x2x3x4x5x6yAx7x8yAx9w50yAyByCyDyEyFyGyHyIx1x2yAx3x4yAx5x6x7x8x9w60x1x2x3x4x5x6x7yAyByCyDyEyFyGyHuEɳx2x3x4x5x6x7x8yAx9yAw10x1x2x3x4x5x6yAx7yAx8x9w20yAx1x2x3x4x5x6x7x8yAx9w30x1x2x3x4yAx6x7x8uFɳyAx2x3x4x5x6x7x8x9w10x1x2x3yAx4x5x6x7x8x9w20x1yAx2x3x4x5x6x7x8x9w30x1yAx2x3x4x5x6x7yAx8yAx9w40x1x2x3x4x5yAx6yAx7yAx8x9w50x1yAyByCx2x3uGɳx2x3x4x5x6yAx7yAyBx8x9w10x1yAx2x3x4x5x6x7x8x9w20yAx1x2x3x4x5x6yAx7x8x9w30x1x2x3x4x5x6yAx7yAx8x9w40x1x2x3yAx4x5yAx6x7x8x9w50x1x2x3x4uHɳx2x3x4x5x6yAx7x8uIɳx2x3x4x5yAx6x7x8x9yAw10yAx1yAx2x3x4x5uKɳx2x3x4x5x6x7x8uLɳx2yAx3x4x5x6yAx7x8uMɳyAyBx2x3yAx4x5x6x7x8x9w10yAx1x2yAyByCyDyEyFyGyHx3x4x5yAx6yAx7yAx8x9w20x1x2yAx3x4yAx5x6x7x8yAx9w30x1yAx2x3yAyBx4x5x6x7x8x9w40yAx1x2x3x4uNɳx2x3x4x5x6x7x8x9w10x1x2x3x4x5x6x7x8yAyBx9w20x1x2x3x4x5yAx6x7x8x9w30x1x2x3yAx4yAx5yAx6x7yAx8x9w40x1x2vLɳy2y3y4y5zAy6y7y8y9x10y1y2y3y4y5y6y7zAy8y9x20vUɳy2y3y4y5y6y7y8y9x10zAy1zAy2y" ++
  "3y4y5y6y7y8zAy9x20y1y2zAuOɳyAx2x3x4x5yAx6yAyByCyDyEyFx7x8x9w10yAyByCx1x2x3x4x5x6x7x8x9yAw20yAx1x2x3x4yAx5yAx6x7x8x9yAw30yAx1x2x3yAx4x5x6yAyByCyDx7x8x9w40x1x2x3x4x5x6x7x8x9w50yAyBx1uPɳyAx2x3yAx4x5x6x7x8x9w10x1uQɳx2x3x4x5x6x7uRɳx2yAx3yAyBx4x5x6x7x8x9w10yAx1x2x3x4x5x6yAx7x8x9w20x1x2x3x4x5x6x7x8x9uSɳx2yAx3x4x5x6yAx7x8x9w10x1x2x3x4yAyBx5x6x7yAx8x9w20x1x2x3x4x5x6yAyBx7x8x9w30x1x2x3x4x5yAx6x7x8x9w40x1x2x3x4x5x6uTɳx2x3yAx4x5x6x7yAx8yAx9yAw10x1yAx2x3x4x5x6yAx7x8x9w20x1x2x3x4x5x6x7x8x9w30x1x2yAx3yAx4x5x6uUɳx2x3x4x5x6yAyBx7x8x9w10x1x2x3x4x5x6x7x8x9w20x1x2x3yAx4x5x6x7x8x9yAw30x1x2yAx3x4x5x6x7x8x9w40x1x2uVɳyAyByCyDyEyFyGyHyIx2yAx3x4x5x6x7yAyBx8x9w10x1yAyByCx2yAyBx3x4x5x6x7x8x9w20yAyByCyDyEyFyGyHyIyJyKyLx1x2x3yAx4x5x6x7x8yAx9yAw30yAx1yAx2x3yAx4x5x6x7yAx8x9w40yAuWɳx2x3yAx4x5x6x7x8x9yAw10yAx1x2x3x4yAx5x6x7yAx8yAx9w20x1x2x3x4yAx5uXɳx2x3x4yAyBx5x6yAx7x8yAuYɳyAx2x3x4x5x6x7x8uZɳx2yAyByCyDx3yAyBx4yAx5yAx6x7x8x9w10x1x2x3x4x5yAyByCyDyEyFyGyHyIx6yAyByCyDyEyFyGyHuAAɳy2y3y4y5y6y7zAzBy8y9x10y1y2y3y4y5y6y7y8y9x20y1y2y3y4y5y6y7y8y9x30y1y2𐀂uޏҾuѢҾuINڅTƙܼ۝T&˻۝T&ܼη&˻ηuל ՒuˠSEGՍuηȏGՍ𐿈aANˏLѱѓPH Aɳy2y3y4y5y6y7y8y9x10zAy1y2y3y4y5y6y7y8y9x20y1y2y3y4y5y6zAy7y8y9x30y1y2y3y4y5y6y7y8y9zAx40y1zAy2y3y4y5zAy6zAzBy7y8y9x50y1y2"

def namePart6 : String :=
  "y3y4y5y6y7y8y9x60y1y2y3y4y5y6zAzBzCy7y8y9x70y1y2y3y4y5y6y7y8y9x80y1y2y3y4y5y6y7y8y9x90y1y2y3y4y5y6y7zAy8zAy9w100zAy1zAy2zAy3y4zAzBzCy5zAzBy6y7zAzBzCy8y9x10zAzBy1y2y3y4y5zAy6y7y8y9x20y1y2y3y4y5zAy6y7y8y9x30y1y2y3y4y5zAy6y7y8y9x40y1y2y3y4y5y6y7y8y9x50y1y2y3y4y5y6y7y8y9x60y1y2y3y4y5y6y7y8y9x70y1y2y3y4y5y6y7y8y9x80y1y2y3y4y5y6y7y8y9x90y1y2y3y4y5y6y7y8y9w200y1y2zAzBy3y4y5y6y7zAy8y9zAx10y1y2y3y4y5zAy6zAy7y8y9x20y1y2y3y4y5y6y7zAy8y9x30y1y2y3y4y5y6y7y8y9x40y1y2y3y4y5y6y7y8y9x50y1y2y3y4y5y6y7y8y9x60y1y2y3y4y5y6y7zAy8y9x70y1y2y3y4y5y6y7y8y9x80y1y2y3y4y5y6y7y8y9zAx90y1y2y3y4zAy5y6y7y8y9zAw300y1y2y3y4y5y6y7y8y9zAx10y1y2y3y4y5y6y7y8y9x20y1y2y3y4y5y6y7y8y9zAx30y1y2AzBzCy3y4y5y6zAzBzCy7y8y9x40y1y2y3y4y5y6y7y8y9x50y1y2y3y4y5y6y7y8y9zAx60y1y2y3y4zAy5y6y7y8zAy9x70y1zAy2y3y4y5y6y7y8y9x80y1zAy2y3ȄǱRIzAy4y5y6zAy7y8y9x90y1y2y3 Υy4y5y6y7y8y9w400y1y2y3y4y5y6y7y8y9x10 ˠLOG֨ǔzA η LOG֨ǔy1y2y3y4y5y6y7y8y9x20y1y2y3y4y5y6y7y8y9x30y1y2y3y4y5y6y7y8y9x40y1y2y3y4y5y6y7y8y9x50zAy1y2y3y4y5y6y7zAy8y9x60y1y2y3y4y5y6y7y8y9x70y1y2y3y4y5y6y7y8y9x80y1y2y3y4y5y6y7y8y9x90y1y2y3y4y5y6y7w501y2y3y4y5y6y7y8y9x10y1y2y3y4y5y6y7y8y9x20y1y2y3y4y5y6y7y8y9x30𒆺aBAMUMǌPH˂-A ցUE MЃvGBѼ ЃvPִMFִPIPAEՐѼ;BAvNAA MЃvڛENڛETvTұ MЃvNZA MЃvڑմǵ NJI" ++
  "v؍ǵ NJI PIPAEՐѼ=BAv԰MBGBѼvTU ԰ԼvNGʮUv԰MVϓxNSݥwVϏվMvSEU֠MvNTOQױvKEUKϒմvNKҎIvSUUvցUENZϐvLAPAQwωKUTvNTʹMFAAv԰KEUPvPAڇEvGHϏحvPAMڇEvMִտϏTvNZUN MϒvU YUQǛEvGHϏGHϏvNTʹNۼvڪAvMG˜AwEUNJOMNDEUQwOOMPUQvӃAvPAǋEحWAvմǋEحWAvPETv԰MKױvNIKAvPUPvTݥPvLݥPvSO։MvTϒEUWENv԰֡vӍvմAտϏTvKUOQvMOOMϒvڛMvLOM԰vFҪvROMvKPOQvSOQvMʹPѼTvڑحvNTAPvڕQ NڛT YUMv֡T MOցϏQvPAAحvNӂحvUNK֖NvտENv԰SIv։MvԼ֡vNYETvTϏNvSOTvPAAMvNSHѼv԰Mv֡vKAQvNڇvVEEvLUvNENwAQvԼQtB NڛETvTU ԰ՐѼvSѼwωTUvLOM NTϐvԼǓάEvKѼMvYEUحvԼAحvKAMvװڑvYAFUǋEحWAvӧ NڛT ֠MvNTѼ ڍUOQwDU ։AvПUGHϏMvPITvTU NSѼvSHω։QyݥQTUvMFִTϏQw˰ ԼAӍv֡ NTϐvKEUPUQvПUПNvKEUYϓvLAʪEvPA٦vVϐvցҎI MVOPxGEU ԾvWݥTvSAKϏvۼMvMEUQvրOQ# ӬvMFҶQvSUEvԽURIwONTIΣv֠E԰vPUվAMvMϒ տEETvFϓvԾOQvϨvKϏMvMA NJϏNA!UQAvLETvտAAMwSENvMAvKIQvւMtC ցUE ԰ԼwZAvYUMvWAցUOQvտENwDϏعwGKAQvНحvM˟KEETvGBAYIv֡R MKץQǕUNwTU M˰vMBϐvPҪΣvյԾvԼAơBBʉ-݂vKEއϏPvНPvKEUKAQvYUǙO԰vNZϐvԾEvNSϏNvM˰vYEUQvKץQwAAvSϓvNDIDAvۼڇEvNJUEQvTұ YUEvSݥTvրAδ֠MvVϓvNANSʪQvMA KϏRIvNۼwGGݷvLAPvMBҪΣwG˜AQvNTEݵBAvTϒϓvրMvFUEvNDϒwSAxHAQvBݵvVϏױvԽحvRUv։EMvӧvTITݥPvNSU׍ւMwJE΢vӍvրv԰SIwBݥMvLUvKUTv։MwGOMvWUPvրEETwSOMw܍vKUOP NӂحvN۲wDAMvMA NSѼvYAAvմPvڛEQwETЃvMBIwAEԼwBA֡vKEUSϓvMBϓvKϐvԼA PICӍvYUWOQvNJϓvMѼwݥvڑQvKδLAWzFˌGUEvվQwAQvLIQv؁wENvTETtD ԾOvWAPvNJIvMЃvNJѼvLѼvNJϒwSэwGGAA԰wYAMvWݥNvցUNvSэvցAPvKϏTMEUN" ++
  "vTϒvSHϏv։PvSUEvӍvYAEM԰vKUOMvSAPvMFϒvNDϓvMʖERIwϒvSϏQvYENvNJϏMvKEU׍MBݥvցEURIvTUvGеvց߂vFEUFϏTvNͦvՐOFUMvLϏPvյNvգIwGBEUNvPUUTvՐѼwFOvԩvNSѼPvԼAvKWAETvNYETvTϏNvSOTvYUWOQvKϐvحMvTE΢vցϏQvMFϏvNSѼTvKEUPvPIPwϒAEvNYUEvLETvտAAMvMFѼvտWAENvYUOMvעvYUOPvմMwTϐvSݥvKUNvտϓxKѼvTݸvMEUNvKUQvN۱vTEUNv԰֊TvտAPvLϐvրOMwڛTwJUEQvGHϏvKUvRδ֫vTAEwOQv֡vRIIvLE΢vME΢wvSUUvMUvڑIxϓvK߂vNUvڛvNTEEvװvNIvڕQvPUQvMVOPvLOQvRδMݨvTIvNTUUvԼA SϔvSAQvFAAtE մPvT׀vMBϐvLAPvVOMvL׀vPAAvSOMvRAQvNڛOPwDUNvPݥvTAMvցAvKPϓvWUOvSEEvտϏTvPAAMvTOOvKUOPvLOMvNSHѼwGOPv԰MvցϓxOQwڛEvRIՐAvNJϓvװMvSAAvրحvՐAvGHϓvցϏMwJAEMLIvMAPvԞTvտE΢wDIQvTAδNTϐvچvPUMvմA ۇջwGGݥڇE ֠MvYѼvПUNvTݥvYϏvPOvTU԰vKϏvSݥNvTϏQvVϏvWϓvLAAMvPUvۼQvGе԰vNGEURϒvSHϏQvՐENw˟vNZAQwKOMvGBETvTUMvKUETvYAPv֡ƣEAލvYITvMFEUQvNͮQvPѼQvYUEQvLϏMvFUEvGBϓvցUPvӍv԰vNGӂMIvПTvFAvNTUMvPϒvYϐvտϏwYI ˪wZUQvP׀vMѼvFUETvNAEvMݥvGHϏvFU IvMVIvPUAQvցUMvKUTvPIETvNTAPvYϏTvրPvPA PEO؆vFU CʟwOMv֊EvAvTOQvOvIvLAQvPA PLURALvۼxQvմA MY HוvڑQvYϓvNGݥvYݥNwOQ SWIMMҗzCיwUQxNvKϓvPϓv֊E EPOCHvPUEvWUEvϨvVEEvLUvMIvRϓwAEvNGݥTxAvڕyQvFUȅՁYvNAvPIvLOQvKOvՌwAxQvTEUvKIvգv܍vFAQvGHOMtFǇvUvKUvEEvعvTAEv֡vLAvRIIxEEvME΢vۼvմAwJAEMvMvSUUwHIIwIwϓvK߂wETvNݥxwJݥvYOQvڛvYAvNڇvPϓvNTEEvWUEvװvRUvNIvRϓvKENvցWAENxGAvڕvPݥvFOMvWAvLIwOQvKOvԽNvؼvMAwOwBAAvTETvKPAvSAԼvVUEQ𐀈aMROǌTAlNGI" ++
  "lYOlMIMlBAlDAlAl׻lӐIlHAOlDAIlCHUlKEAAElOLl԰MlNINlPAlOOmlROlڑlܓAlEAlWAlElKOlӫnlHAIlRIlTEK𐀂e͸kַkݙlѨkЊlҴkګlϔkΥkք𐀅e͟fאaTʮSAǌOZpCpQpXoAZpCpQpXoVZpCpQpXoEZpCpQpXoIZpCpQpXoUZpCpQpXoAWZqCqQqXoUIZqCqQqXoϱNGoԜUEXoژUEZuAWXoUECqZqQqXpIUZrCrQrXoMZpCpQpXoKApHAoGAoվoSAoYAoWAoPAo֠o׺oBAoMAoNAoHAoLAoѩoTAoDAoRAoNHAoڇoCAo݋oНoHݎoܑoXAoFAoͭo̞oZA𐀂h͸nַnݙoѨnЊoҴnګoϔnΥnք𐀇aBAۖ VAHǌENNIrKArSErFArԽrYIErGAHrDHIIrKPAHrJOrHWAHrWArZOrGBUrDOrCErUWUrTOrBArVUrYEINrPArWAͤrArOsOrUrEEsrI𐀃k̻іܵuԣܵuՑܵuԢ-ՑܵuїԣܵkВ𐀋aPAHAWH HMֽ ޟKEEBwVuIBvVuAUBwVuUBvVuEBvVuAIBwVuOOBwVuAWBwVuUABwVuOBvVuIABwVuABvVuWBvVuAABwVn͂ VAUxN݋UxLAUxHAUxNLAUxRAUxNKAUxQHAUxYAUxHLAUxMAUx̞UxN̞UxHNAUxPԉUxNܑUyAUxAUxXAUxCAUnԺCIM TUBwSOwKESxHAVwSUAMwHOMw܅MnڠV׋ܝMxڇB CEEBsCIM CэMsV׋ܚABwϨMsX߂M NTXIVyمyTOVyFAIBsVOSȏEVsMEEJțABsV׋NRUAsIB YAMsXAUSsCIM TSOVȇG𐀋n͸tַtݙuѨtЊuҴtګuϔtΥtք𐀂n֜SuѫSu܎Su՛uѫ ՛uTδB҇ҧSvR҇ҧS𐀂nڠV׋LUBsXߐsHLIsܜ-STʉ HLIsZWJ ܑJsHNUBsNQIGsXIABsNTUJsAVsTXэJ CEEVsMEEJ ݌EBs܅sLOSsMUSsCIMƼIS LUS NTOG NTOGwCUAM TSўJwTXWV! CHWVwPUB DAWBwNؾȬS𐀆nCӫȒTSэJx߂GxLISyAUJxXߐJxKOOxHAWJxMUASxܝJySABx׺BxӐBxпxVAJxFAJxYAJxTSWBxKWMxVWJ𐊱aՁEFAIDْ ̐M#S#V#W#ˌU#Z#KP#P#T#G#F#I#K#A#J#E#B#C#U#YU#L#Q#HP#NY#X#D#OE#N#R#O#AI#YmںMzSzVzWzˌUzZzKPzPzTzGzFzIzKzAzJzEzBzCzUzYUzLzQzHPzNYzXzDzOEzNzRzOzAIzYm͸" ++
  "sַsݙtѨsЊtҴsګtϔsΥsքm֜tήtݖuћtЍuѾtڭuϖtΧtօmͷ ʤЇsݚʤЇsܟʤЇm̼mВmۺAIVAmϚ OH𐁦bIAOǌPAmBAmYIǵm؄mMAnHAmʽMAmFAmVAnFAmTAmDAmYI ݎqAmݎmͤmNAnHAmYI ֋mʽNAm֋oHAmLAnYAnHAoYAmTԉmDԉmTLHYAmDLHYAmKAmGAmYIǇmQAnGAmվoHAmʽվmHAmXAmНoHAmTۖmDZZAm֠oHAmTڇmDߛmYI TڇpDߛmREЇΟTڇmڇnSAmߛnڇm݋mΘmYI ݋mSAmZAnSAnZAoSAmʽZZAmZZYAoSYAmWAmAHmђmBRImSYImDZYImTEnSEmRTE𐀅fڠ͂ աƚfԆNASʜZˍfڠAېˍkREЇΟVOICҗtAېˍfޠArArHHrNsGqOrOqWOrqErNsGqOEYqIrAsNtGrOrErIrUrNGqUrAsNtGrUrEIrNGqYrIqAEsEqERRq٢ERRqERq٢ERqAIqEIqAUqOUqNrGqUOGqYUIqOGrERqVWqIGqEAqIֽqUI𐀈fܶىkܼىjƁkˣfԆܹ2r3r4r5r6r7r8mREЇΟܹ1!2!4!5!6!8𐁁aTʮUT ҳǔaNUڛ ҳǔa̧֬պE џǔmҳǔaKHITʩڷٻϰ𐀌aVIETNʧSE ʤشҗǔơ.NHAY𑠏aTʮUT ̹؍λ-ɳt2t3t4t5t6t7t8t9s10t1t2t3t4t5t6t7t8t9s20t1t2t3t4t5t6t7t8t9s30t1t2t3t4t5t6t7t8t9s40t1t2t3t4t5t6t7t8t9s50t1t2t3t4t5t6t7t8t9s60t1t2t3t4t5t6t7t8t9s70t1t2t3t4t5t6t7t8t9s80t1t2t3t4t5t6t7t8t9s90t1t2t3t4t5t6t7t8t9r100t1t2t3t4t5t6t7t8t9s10t1t2t3t4t5t6t7t8t9s20t1t2t3t4t5t6t7t8t9s30t1t2t3t4t5t6t7t8t9s40t1t2t3t4t5t6t7t8t9s50t1t2t3t4t5t6t7t8t9s60t1t2t3t4t5t6t7t8t9s70t1t2t3t4t5t6t7t8t9s80t1t2t3t4t5t6t7t8t9s90t1t2t3t4t5t6t7t8t9r200t1t2t3t4t5t6t7t8t9s10t1t2t3t4t5t6t7t8t9s20t1t2t3t4t5t6t7t8t9s30t1t2t3t4t5t6t7t8t9s40t1t2t3t4t5t6t7t8t9s50t1t2t3t4t5t6t7t8t9s60t1t2t3t4t5t6t7t8t9s70t1t2t3t4t5t6t7t8t9s80t1t2t3t4t5t6t" ++
  "7t8t9s90t1t2t3t4t5t6t7t8t9r300t1t2t3t4t5t6t7t8t9s10t1t2t3t4t5t6t7t8t9s20t1t2t3t4t5t6t7t8t9s30t1t2t3t4t5t6t7t8t9s40t1t2t3t4t5t6t7t8t9s50t1t2t3t4t5t6t7t8t9s60t1t2t3t4t5t6t7t8t9s70t1t2t3t4t5t6t7t8t9s80t1t2t3t4t5t6t7t8t9s90t1t2t3t4t5t6t7t8t9r400t1t2t3t4t5t6t7t8t9s10t1t2t3t4t5t6t7t8t9s20t1t2t3t4t5t6t7t8t9s30t1t2t3t4t5t6t7t8t9s40t1t2t3t4t5t6t7t8t9s50t1t2t3t4t5t6t7t8t9s60t1t2t3t4t5t6t7t8t9s70t1t2t3t4t5t6t7t8t9s80t1t2t3t4t5t6t7t8t9s90t1t2t3t4t5t6t7t8t9r500t1t2t3t4t5t6t7t8t9s10t1t2t3t4t5t6t7t8t9s20t1t2t3t4t5t6t7t8t9s30t1t2t3t4t5t6t7t8t9s40t1t2t3t4t5t6t7t8t9s50t1t2t3t4t5t6t7t8t9s60t1t2t3t4t5t6t7t8t9s70t1t2t3t4t5t6t7t8t9s80t1t2t3t4t5t6t7t8t9s90t1t2t3t4t5t6t7t8t9r600t1t2t3t4t5t6t7t8t9s10t1t2t3t4t5t6t7t8t9s20t1t2t3t4t5t6t7t8t9s30t1t2t3t4t5t6t7t8t9s40t1t2t3t4t5t6t7t8t9s50t1t2t3t4t5t6t7t8t9s60t1t2t3t4t5t6t7t8t9s70t1t2t3t4t5t6t7t8t9s80t1t2t3t4t5t6t7t8t9s90t1t2t3t4t5t6t7t8t9r700t1t2t3t4t5t6t7t8t9s10t1t2t3t4t5t6t7t8t9s20t1t2t3t4t5t6t7t8t9s30t1t2t3t4t5t6t7t8t9s40t1t2t3t4t5t6t7t8t9s50t1t2t3t4t5t6t7t8t9s60t1t2t3t4t5t6t7t8𒓱aӌǌ՜Nʩܹ2$3$4$5𐀂$7$8xNAٮҷܹ1=2=3=4=5𐀂=7=8𐀂qʽEaњǌʽYEbλAIGʪǍ-1u2u3uWOsI-1u2u3u4sݤu2u3u4u5sE-2u3u4u5u6s֣u2u3sKA-1v2v3v4v5v6v7v8v9v10w1vKEtI-1v2v3v4v5v6v7v8tݤv2v3v4v5v6v7tE-1v2v3v4v5v6t֣v2v" ++
  "3vKIsSA-1v2v3v4v5v6v7v8tI-1v2v3v4v5v6tݤv2v3v4v5v6v7v8tE-1v2v3v4v5t֣v2v3v4v5v6v7sTA-1v2v3v4tI-1v2v3v4v5v6v7tݤv2v3v4vTOtE-1v2v3v4v5v6v7v8v9t֣v2v3v4v5v6vRAsNA-1v2v3v4v5v6v7v8v9tI-1v2v3v4v5v6v7vTEtݤv2v3tE-1v2v3v4v5v6vKOt֣v2v3v4v5sHA-1v2v3v4v5v6v7v8v9v10w1tI-1v2v3v4v5v6v7tݤv2v3tE-1v2v3v4v5v6v7t֣v2v3v4v5v6v7v8sMA-1v2v3v4v5v6v7tI-1v2v3v4v5v6v7tݤv2v3v4tE-1v2vMAt֣v2v3v4v5v6sYA-1v2v3v4v5vYOtݤv2v3v4t֣v2v3v4v5v6sRA-1v2v3v4tI-1v2v3v4v5v6v7tݤv2v3v4v5v6tE-1v2v3v4t֣v2v3v4v5v6sWA-1v2v3v4v5tI-1v2v3v4v5tE-1v2v3v4t֣v2v3v4v5v6v7sN-MU-M֣!2aњǌʽWUaӌǌʽYIzEyWU𐀮aњǌڷWIxExO𐀒aӌǌڷWIxExOwN𐪙aDUPLO޿ǌHqXqPqTqFqKqLqBqDqVqGqRqP NqD SqF NqK MqR SqTHqڴDHqDHqKKqڴJqHLqLHqRHqMqNqJqSqM NqN MqJ MqS JqMɆqNɆqJɆ!S ҝ ʭƁqSɆ!ƜqM SqN SqJ SqS SqM N SqN M SqJ M SqS J SqJ SɆsNt SqS Tt RsPt RqT SsR SqWrHr RqS NsMqK R SqG R SqS Kt RqAqڴOWqOArqAOUqIqEqIEqژIqUIqEEqڴEHqROԶѱIqڴEEqԜIqYEqUqEUqXWqU NqԜUqROԶѱUqUHqڴUqOOHrWrUqWArOrIrEIrOWqNASʑUwOwIwAq׳NIN ANyMqڴENwANwONqޙM𐀆jAFFIX ӳѢټpՑѢټpيѢټpԣޏټpՑޏټpіޏټpːټyӲɱيټyTʮλ!ILyE џyI џyTʮλ џ𐀄pіʆuTҀ ʆuЬuԜЬu΃ṷuԎuާuގ𐀈pԣʆtTҀ ʆtЬtԜЬt΃ṱtԎtާtގtˀ𐀃jڠOȻ͌jTHѸǌSάCܾjΉǔjء ̧Nֿ Вaڗт ЇATǌכPr̀ܯUҘכPrΎ۟Prݺ۟P𑉝aZNAՌNY ̻ԺЧֈȌǭyֈȌǭyTSˆǭyЧֈǭyֈǭySطNEǭyԵǭyؒǭyޣǭyԵȋӲyؒȋӲyޣȋӲyЧֈȌǮyֈȌǮyTSˆǮyЧֈǮyֈǮySطNEǮyԵǮyؒǮyޣǮyԵȋىyؒȋىyޣȋىyTSˆȌyԵȌyۧN֌" ++
  "ԵyؒȌ+݀NNOyޣȌyԵ ۧNNOyЧޣyZβyONyRAVNOyTIKH˒yBORZ˒yݪRKAyPODލTKAyLOMKAyKUPղzACѝyZEVOKySKOBAyRAZSEKAyӟǭ𐀃tܴʑزԺMجNO;SVETLO;TؾVETLOtԺZAͪZѝyDEMψVENNY ZAͪZѝyO݌Cѝy؉.Ȼޒy̞Sѝ( ،ղyOBLACHKOySOROCHYAǝZѝyTOCѝyDVOETO̧EtAݎCHҘޏOՏtԺ͖OՏyӟtԥܴʑRʮEǄjPRIZNAK աǋVEL-2)3!ͺIִFԓ!ӟ!ROG𐀊jNϐE KRYUKuȨKHYpץKԔpDVA V ̡LNUpKLYݨpZʳߜKpۥI݋x S OCHKOMp׳EVODKAy ոpۥITSʀSOROCHYAǝZѝp̡LYUSTKApןKApߕpGOLUB̧K BORZYzTIKHYzMجNYzSVETLYzTؾVETLYpVRAKHҶȂyMجղySޔyTؾޔyKԬȂ;Mجղ;Sޔ;TؾޔpΊߕpك̡LYUSTKApͪBI݋pӐ՚Op̞Sѝp؉pSKʧY݋ MجղzSޔzTؾޔ!IKH˒pDEMψVENNY KLYݨpSKʧY݋ KԬ Sޔ)ո!ԬȨKH˒zDVOE̡LղȂ=Sޔ=ո=KԬqLOߝܨy S ߖzZAKRYTOEyȌpӟpROGpFұpKOBYLApZMEY݋pۜTYAv S ߖvȌyߖ I ӟEMvȌ I ߖwZAKRYT˒( S ߖwSȇGOMyDVUMYA ZAPYATYMIyߖ I ؉Mp،KULIZMYpۜTYA ոrRΫȂwMج֓IKH˒wӟEV˒w،UؑwؑwոwKLYU̡ؑ%ոwTIKH˒ PUTղwDVOE̡Lղ(OӟEV˒)ؑ(˒ KԬ(Oؑ KԬwGROMղȻڧߕ!OؑȻڧߕ!ղ!Oؑ;ȻΊߕ#ӟEV˒< ؑpMȨKvǺVODNYwKLYU̡VOY%POVODNY%NE؏O޿NYpۦΫ TRYASOGLASղ$ؑ$ۦELղpOSOKAu SޔvTؾޔvKRYUKOV˒ SޔwԬ Sޔ+ոpۦΫ KRYUKOV˒) ؑ+GROMղȻڧߕ<OؑȻڧߕ<ղ<Oؑ~ȻΊߕ=ӟEV˒İ ؑ+TRYASKApKUFҭpOBӦOpDݪpNEMKApPAUK𐀽aBYZʴҔ լ ۺ؝zD˂IAz׶zOXEIA Eӏ(͹zމ Eӏ)͹zKAܚۣzSYRMˌKIzץKԔIKIzYPOKRIڪ. ͹zKREMAۣzA׹O EӏzEXO EӏzTάIAzKμMˆzA؏ROFOS: ͹zSYNϙzTHұzOLIGONƕzШƕz؜LONz̞՚ONzVˊYzISONƕzKλ҈ƕ)TAƕzSAXIMˆzפĮNzۜVR׋APODEXIAzOXEIAIƕzމIƕzAPOͪMAƕ$ܓMAzKLAڵzRϙzPIAڵƕzܯAGMAzʪ݃CHҭzSEҭ!ߍƕ+Mϊ ۜVROUzOYRANҭƕzܓMAzLEMOIzDY" ++
  "Oz݃A!ESڅAzKRˌMˆzA׹O EXOǜzБƕzIMIБz݊NƕzKˆVA ݊NzPΫSܴ!SIFISܴzKONTϙzCѠϙƕzRAPҭzקƕ&ԔIKIƕzI̞DINzNʪzPϊڵzKONTϙ ʟOz݊N ʟOzۧGGҭTAzGٛTHҭTAzISONǜzOLIGONǜ!XEIAǜzPϊۣzKOUFҭzPϊۤKOUFҭzKRˌMOKOUFҭzPΫSܴǜzKμMˆǜ ʳ)ǜ ʳzY؝zA؏ROFOSǜ.I SYNͫMOSǜzYPORROIzKRˌMOYPORR׀zΫFٛz̞՚IzMIKRִISONzމǜzPIAڵǜ!SIFISܴǜzOMALONzʶKENOMAzLYGҭzץKԔIKIǜzקǜzE܏ִקzKYLҭzʶKENOKYLҭz݊NǜzEKۦEPܴzSߍǜ#RMAzCѠϙǜzEPEМMAzSEҭǜzXIRִKLAڵz݊؜FISܴz؜FIۤLYGҭz݊LYGҭ)קz؜FIۤקz݊Sߍz؜FIۤSߍzGOلzAلzE܏ִAلzOYRANҭǜzܓMˌSM׋ESO=XO& APLב$S KʋAPOܓSzKˆVAڵzEյЃONzYFENǉ&ʳzۜVROSzKLAڵ ʳz͹ƕzKRAT҈ƕ.LLO)ǜzAPOͪMAǜ#LIz͹z݃PLI!E݀PLIzKOٛISzLEIMMA EN׋̫U)DYO ̫N)ִ̫݃N+EۖRִ̫N)IMҫ׋̫UzШǜ ʳ)פEۣGՌִARIۡA|DEXIAzDIШ+ פEۣGՌִARIۡAǉĹʳ~ƨXIAz݃ШzARGONzIMIͮRGONzͮRGONzAGOGI ،I ARGI(ARGO܏I.I(ME݃A+SI(GORGI:O܏I(،I GORGIzԹTYRIA ؚT׌.ʟI ؚT׌.DEY܏׌.ʟIƨY܏׌.Tٙ׌<Є:E܃T׌]ԀET׌.ԀET׌.PӣI׌zISAKIAȣLהI̧MˏSzA؏ROFOIȣLהI̧MˏSzFAչOڪȣ݀Є:դЄ:DIЄzԹTYRIA VARYSǂ.ؚTOVARYSǂ:ӣIOSȣ܃T׌zG׊HMIKִN APLב=DIPLבzEհXIS KʋБ VOUzIMIЃON%ܝٛzБƕƨY܏OU ICѧ)ܴͮIKIǵ[Nʪ)NA׌)ܴͮIKI DI)ڰִִܴͮDI)ܴͮIKI KE[ZO[NIǉ_ʳ)MAӦֵDIЄ~դЄ!HܾA ڰֵVAڪzБ ڰֵSYNAFI)NENʳzCHROA ZYGOS(KLIܴ(SPAܚzБ I ߋȣ܃ܮ)EհգI׋ʶЃIAzߋ ݃ܮzDIEڪ ݃ܮ+E܃ܮ)APLI DYOƫ)գ֨MOSȣSڅAƫ)DIЪM׋EXƫ)݃ЪM׋OKTOƫzߋ APLI DYOƫ)գ֨MOSȣSڅAƫ)DIЪM׋EXƫ)݃ЪM׋OKTOƫzGENIKI DIEڪ)ߋzͮۤLI APLI MIKRI?EGʜ.͹.ܓSEOSzSIԶڪ ܓSEOS@ ͻҊ[݃SҊ]E݀SҊ.ARSEOS? ͻҊ@݃SҊ[E݀" ++
  "SҊzDIЪMA GG#FTOGG׋OUzۣGMAzARKTIKOǵ+VOU+GA+DI+KE+ZO+NIzKμMˆǜǕSO)ǜǕSO)TAǜǉ)ǜǉ!LAڵǉzШǜǉ𐀋aլȞȓƚԎpΉƚԎpϱ˙Ԏpف ϱ˙ԎoƧEDƚԎpڗƚԎpӲȅPΝȑpىȅPΝȑqEPΝƬSp͜ȏGNOrơPOpSEGNOpCODApRE׮܈ϭ-1(2(3pFERMˆwƜpBREˊǔpCAESURApBRACEtӍpַɪpݙɪqѨɪpЊɪqҴɪpګɪtSTٔFRET˷pЊ-STٔFRET˷pGƤv Oݏ%BAۖpCƤpFƤv Oݏ%BAۖpD٦Ƥ-1z2𐀃pթ ՀEȆpΊڌPwϽpϽȶu΍pNAݑALȶx΍pڌPȶv΍pا ܶڌP$Ͻp̹գȨMEqUTȨMEpOݏwBAۖpQUҎѷS҈ ALTA$BAۖpMݰIȆpWHOLEȆpмȆpاȆpΨȆpڮȆpTќ-ٽȆpگ-ЎȆpֻ ݘ-ΨȆpXǠp؇Ǡp̮XǠpۑǠȹ(˱p݄Ǡȶȹ;˱+Ӳȹ=˱+ىȹ>˱+΍ȹ=˱+ݺىȹ[˱pեǠȹ%˱p݄-١Ǡ ΍ȹ^˱pתǠpVOIDǠoǠ ˱qݯǠpCLUۡǠȹ)˱p̀pWHOLEǟpмǟpاǟpΨǟpڮǟpTќ-ٽǟpگ-Ўǟpֻ ݘ-Ψǟp̻۠!PصHGESʯ۠zTREMOL֣+2+3pϳΟTREMOL֣)2)3p̻AUGՍˍƬzϼ-1&2&3&4&5pˠ˞Mpη ˞Mpˠܨpη ܨpˠSLURpη SLURpˠPHR˂pη PHR˂p̺ƄzۜCCˏyȥTOzۜCCˌSSIMOzԹCˏ)-ۜCCˏyƄ-ۜCCˏzLדEpARPEGGIˏȶ!΍p̻DOITzRIPzFԓzSMΛzBηzΊܺz݈ܺpْІZAյpSU˰OpZpPIʳpMEZZOpF׊EpCؾCEյpDECؾCEյpЩCEǟ ڲ!֌ڲpTRpݒpҥݒpݒ ڲuUPoǳș-1(2(3(4(5(6(7(8(9(10)1pHAUPTۣMMEpNEBENۣMMEpθۣMMEpDEGع ڲp̻Ύ˼zݺ˼zфգICzSNʹPIZZICˏpPE͜ǔvUPǔpнPE͜ǔpGLIۖյȶz΍oȻϳNʌSpDAMPt ʟpMAX҈pԛAṕpځ́ȹ!˱p՜҈v ˱pځ՜҈ȹ!˱pFUSAȹu˱pԛA ׵ȆvIM׵ȆṕȆpځ́Ȇp՜҈Ȇpځ՜҈ȆpTEMPUS ׳FΞUM CUM ؚӰE ׵~IM׵~׵ DI՜Uܱ-1wIM׳FΞUM CUM ؚӰE ׵ıIM׵Ļ DI՜Uܱ-1Ň2Ň3p͋IXpGREGORѱCƤzFƤpےBpVIRGApPODATUSpCLIVISpSCʭI͗pCL҈͗pܾCݱSpPORRΞUSy FLEXUSpSCʭI͗ FLEXUSpܾCݱS ؾU؁USp׹țBPUNCTISpKIEVʩCƤwθ׾wFҌǟwصұTҴǔwWHOLEǟwмǟwاǟ ۠ ΍?UPwΨǟ ۠ ΍>UPwϽȑpSORIpKOٛ𐀖aаVOCALǞˍȞ-1$2$3" ++
  "$4$5$6$7$8$9$10%1%2%3%4%5%6%7%8%9$20%1%2%3%4$50%1%2%3%4gINۦUՍALǞˍȞ-1:2:4:5:7:8:11;2;3;4;7;8;9:23;4;5;6;7;9:30;2;6;7;8;9:40;2;3;5;7;8;9:50;1;2;3;4a̻аլ TRҫMEzETR˂MEyײ˂MEaаլǋIMMA𐂛aMAYʩ֝ʑߙoַoݙpѨoЊpҴoګpϔoΥoքo܍oήoݖpћoЍpѾoڭpϖoΧoօ𐀍bON֨ƵΜaDIЪƵщLY ΜmUԷΜlΜLY щuUԶqaTE݀ЪƵ̜oFݯƢoMIطo˙هRoKEE؂Ȕò݀هTYoASCλoOP؎oBRʬHҘזoDEFΞҴջǱͻܾܱpIލGεoYזHFULջoҍoױETRˍoسCHö́oH֫Ҙ˕oWAIܰoFOLԢҗoADVAճoRά˂qSIۜճoE˂oJOYò܍ܱoηEAVדoDUܨSoCHʮEoDECISҴջo˸ؾOLUܱoPACӖoԀҧo̵EջoKINڑPoGAܓٓoۦκTHoPUٙYoFݯջoREڝճoLAWǱMOͧoؾ؍SEoGOҗȬǕEToENCב܏SoSTטoЮջoENӬՍoPAT܏NoٙUALoFԋoVASTջǱWASܰòSTʬYoՀEoE܏ևYoUևYoDI՜ҬՍo̶զoгEDջpAܓٔINoM˄җoACCUMUӰoEMˢLҬՍoDOUBToWˇoSINӖoINչoDEפݑEpARKENҗpIMMҗoEXHAUSܱoSEލAճoۥPʉoHʾջo̹؆ܱo̵UREoFʌUREoAGЩVˍo̹PLIAճoִܔލGEoDIFFICULܨSoӢOUٓoFO۟ٓ𐀊aCבܰȇD Uև ͷyݙzѨyЊzҴyګzϔyΥyքn܍S ͷyݙzѨyЊzҴyګzϔyΥyքaѻTʟYǔǯxݙyѨxЊyҴaTʟYǔǯlϹ𐂈aԻ ˸̏A!B!C!D!E!F!G!H!I!J!K!L!M!N!O!P!Q!R!S!T!U!V!W!X!Y!ZsڸyByCyDyEyFyGyHyIyJyKyLyMyNyOyPyQyRySyTyUyVyWyXyYyZnҲA$B$C$D$E$F$G$H$I$J$K$L$M$N$O$P$Q$R$S$T$U$V$W$X$Y$Zuڸ!B!C!D!E!F!G𐀂!I!J!K!L!M!N!O!P!Q!R!S!T!U!V!W!X!Y!Zn˸ҲA+B+C+D+E+F+G+H+I+J+K+L+M+N+O+P+Q+R+S+T+U+V+W+X+Y+Zzڸ(B(C(D(E(F(G(H(I(J(K(L(M(N(O(P(Q(R(S(T(U(V(W(X(Y(Znٻ̏A𐀂$C$D𐀃$G𐀃$J$K𐀃$N$O$P$Q𐀂$S$T$U$V$W$X$Y$Zuڸ!B!C!D𐀂!F𐀂!H!I!J!K!L!M!N𐀂!P!Q!R!S!T!U!V!W!X!Y!Zn˸ٻ̏A+B+C+D+E+F+G+H+I+J+K+L+M"

def namePart7 : String :=
  "+N+O+P+Q+R+S+T+U+V+W+X+Y+Zzڸ(B(C(D(E(F(G(H(I(J(K(L(M(N(O(P(Q(R(S(T(U(V(W(X(Y(ZnFRAKݑ ̏A%B𐀂%D%E%F%G𐀃%J%K%L%M%N%O%P%Q𐀂%S%T%U%V%W%X%Y𐀂vڸ#B#C#D#E#F#G#H#I#J#K#L#M#N#O#P#Q#R#S#T#U#V#W#X#Y#ZnΌ̏A:B𐀂:D:E:F:G𐀂:I:J:K:L:M𐀂:O𐀄:S:T:U:V:W:X:Y𐀂#ڸ+B+C+D+E+F+G+H+I+J+K+L+M+N+O+P+Q+R+S+T+U+V+W+X+Y+Zn˸FRAKݑ ̏A.B.C.D.E.F.G.H.I.J.K.L.M.N.O.P.Q.R.S.T.U.V.W.X.Y.Z!ڸ)B)C)D)E)F)G)H)I)J)K)L)M)N)O)P)Q)R)S)T)U)V)W)X)Y)Znٴ ̏A)B)C)D)E)F)G)H)I)J)K)L)M)N)O)P)Q)R)S)T)U)V)W)X)Y)Zyڸ&B&C&D&E&F&G&H&I&J&K&L&M&N&O&P&Q&R&S&T&U&V&W&X&Y&Zy˸̏A<B<C<D<E<F<G<H<I<J<K<L<M<N<O<P<Q<R<S<T<U<V<W<X<Y<Z%ڸ:B:C:D:E:F:G:H:I:J:K:L:M:N:O:P:Q:R:S:T:U:V:W:X:Y:ZyҲA>B>C>D>E>F>G>H>I>J>K>L>M>N>O>P>Q>R>S>T>U>V>W>X>Y>Z(ڸ<B<C<D<E<F<G<H<I<J<K<L<M<N<O<P<Q<R<S<T<U<V<W<X<Y<Zy˸ҲA^B^C^D^E^F^G^H^I^J^K^L^M^N^O^P^Q^R^S^T^U^V^W^X^Y^Z;ڸ[B[C[D[E[F[G[H[I[J[K[L[M[N[O[P[Q[R[S[T[U[V[W[X[Y[Znդۍ ̏A(B(C(D(E(F(G(H(I(J(K(L(M(N(O(P(Q(R(S(T(U(V(W(X(Y(Zxڸ%B%C%D%E%F%G%H%I%J%K%L%M%N%O%P%Q%R%S%T%U%V%W%X%Y%ZnұLѳڷΆI.J𐀃n˸̏ʣ!˨!Е!ͨ!ξ!ߚ!ϊ!ܘ!Ҩ!Ӈ!ө!MU!NU!XI!ֳ!PI!م!ܙ!ڟ!܅!ނ!׻!̧!؜!ֲsկsڷʣy˨yЕyͨyξyߚyϊyܘyҨyӇyөyMUyNUyXIyֳyPIyمyϱڟyڟy܅yނy׻y̧y؜yֲs׬sξȞsܙsӇȞs׻ȞsمȞsPIȞnҲʣ$˨$Е$ͨ$ξ$ߚ$ϊ$ܘ$Ҩ$Ӈ$ө$MU$NU$XI$ֳ$PI$م$ܙ$ڟ$܅$ނ$׻$̧$؜$ֲuկuڷʣ!˨!Е!ͨ!ξ!ߚ!ϊ!ܘ!Ҩ!Ӈ!ө!MU!NU!XI!ֳ!PI!م!ϱڟ!ڟ!܅!ނ!׻!̧!؜!ֲu׬uξȞuܙuӇȞu׻ȞuمȞuPI" ++
  "Ȟn˸Ҳʣ+˨+Е+ͨ+ξ+ߚ+ϊ+ܘ+Ҩ+Ӈ+ө+MU+NU+XI+ֳ+PI+م+ܙ+ڟ+܅+ނ+׻+̧+؜+ֲzկzڷʣ(˨(Е(ͨ(ξ(ߚ(ϊ(ܘ(Ҩ(Ӈ(ө(MU(NU(XI(ֳ(PI(م(ϱڟ(ڟ(܅(ނ(׻(̧(؜(ֲz׬zξȞzܙzӇȞz׻ȞzمȞzPIȞnٴ ˸̏ʣ<˨<Е<ͨ<ξ<ߚ<ϊ<ܘ<Ҩ<Ӈ<ө<MU<NU<XI<ֳ<PI<م<ܙ<ڟ<܅<ނ<׻<̧<؜<ֲ%կ%ڷʣ:˨:Е:ͨ:ξ:ߚ:ϊ:ܘ:Ҩ:Ӈ:ө:MU:NU:XI:ֳ:PI:م:ϱڟ:ڟ:܅:ނ:׻:̧:؜:ֲ%׬%ξȞ%ܙ%ӇȞ%׻Ȟ%مȞ%PIȞ%Ҳʣ^˨^Е^ͨ^ξ^ߚ^ϊ^ܘ^Ҩ^Ӈ^ө^MU^NU^XI^ֳ^PI^م^ܙ^ڟ^܅^ނ^׻^̧^؜^ֲ;կ;ڷʣ[˨[Е[ͨ[ξ[ߚ[ϊ[ܘ[Ҩ[Ӈ[ө[MU[NU[XI[ֳ[PI[م[ϱڟ[ڟ[܅[ނ[׻[̧[؜[ֲ;׬;ξȞ;ܙ;ӇȞ;׻Ȟ;مȞ;PIȞn˸̏DIЕsڷDIЕ𐀃s͸yַyݙzѨyЊzҴyګzϔyΥyքnΌ͸+ַ+ݙ.Ѩ+Њ.Ҵ+ګ.ϔ+Υ+քnٴ ͸&ַ&ݙ(Ѩ&Њ(Ҵ&ګ(ϔ&Υ&քy˸͸:ַ:ݙ;Ѩ:Њ;Ҵ:ګ;ϔ:Υ:քnդۍ ͸%ַ%ݙ&Ѩ%Њ&Ҵ%ګ&ϔ%Υ%քaSIGNWٙҚ-ϸҐr̮ҐsݺҐrOVʑҐrјҐrʱҐrϸґ˥r̮ґ˥rϸܤݳ ґ˥wґذ$CUPPED$љ. Ԣr̮ґHҗErϸґՒr̮ґՒrϸҒ˥:ذS:љ$ݺՓљ$љ ՗$Փ́^ ґ˥_Փ˥_CUPPED_љ:͌EDr̮Ғ͌EDrϸՓ˥ǴҐwґ˥ǴՒ$Փܣr̮ҒܣrϸҒۨ ܤ˥:˥ ܤۨ:ܤ˥:љ SPش ܥ$ݺՓљ ܥĳ́$љ ՗ ܥ$՗ SPش ܤЉ:ܤCUPPED@̭D@џED@љwܤ˪ ҒۨwҒ́ ܥķ ́ĸ˥wՓܤџΟҐȶwғџΟ՗$Փ́ љ ܥ:͍ܥ:́ ܤЉ_CUؔܤЉwՓܤCUؔҐȶwғCUؔ՗wՓܤ̰ҐȶıљwғʰD ז ՗?ǃ՗.̰՗$Փܤ́ љ@ʰD ז~wՓܤʰD ז ҐȶĴ͌ED[ҐȶwғџΟՓљrϽ Ћϴ. ˥:љ:́^ SPԔrCLAW Ћϴ ́rϸЋϴ ́ ˥rјЋϴ ́rϽ Ϻwю ϺwϺ Ћ˥wю Ϻ Ћ˥wϺ ˥wю Ϻ ˥wϺ ܤЉrCݺϺ? ׁrјϺ ׁrOVʑϺrϽ Ϻ љİ ܥı֌ܣvv ˪ ןMƲCҗSwюwܥwю ܥwܤ˥$ЉwSPԔ ґܥ$̜. ܥ_ ˥$ԕrCLAWv ܥw֌ܣwܤЉrџ CUٚvrCݺׁuu ׂܥvܥvׂ֌ܣv֌ܣvׂܤЉvܤЉtٚ ׁzr̭rOVALv ܥw֌ܣwܤЉrјׁ# ܤЉwwȔxׂܥxܥxׂ֌ܣx֌ܣxܥȬݨҘҐ%˪ ՓٓrʰrϸҒٓr̮ҒٓrјҒٓrʱҒٓrјԕrϸҒٔ˥?́rјҒٔ́rϸԕ ΍+ RIP؆ ۨ@͕D.OܖSƢD%UPwܤݳ ԕȶr̮ԕȶrOVʑԕȶrʱԕȶrϸԕ ذ%˥%TOU̡S ܣ%ܣrјԕ ܣrϸԕ ґܣrјԕ ґܣ" ++
  "rʱԕ ғғזĵrϸԕ Ґr̮ԕ Ґrјԕ Ґrʱԕ ҐrϸҒԕr̮ҒԕrјҒԕxٓrʱҒԕrϸҒ͌ ԕr̮Ғ͌ ԕrϸٔ΍rјٔΎғџ ՒrʱٔΎՓܤґ͌rϸٓȶ#ذ#ԕr̮ٖrOVʑٖrʱٖrϸٔՒ+ ́.ذS#Ґ#ܣrџ ٔܣrϸґٖr̮ґٖsUٚ ґٖ ONrџ ґٖ ז?IN?ݳrCݺґٖrјґٖrʱґٖ ז?rϸՓ΍rјՒrϸ՗r̮՗rϸՓذ%ݺܥrџ ՓܣrϸՓܤԕ%ԕ%ٖr̮ՓٖsUٚ Փٖ ONtP ՓٖrјՓٖrʱՓٖ ז[IN@r̮Փٖ ˥sLAW Փٖ ́Ĳ ڝrџ Փٖ ́ זĳINĲrјґљrϸґܥrјґܥrϸґܥ ܤͰ_́_˥>ґ˥>B׎ ˥>ґHҗE.Љ ґۨİ˥.џ.CUٚ<VE ܤҝrCLAW ғ͕ ܤҝrϸғ͕ ܤݳ.̭rCݺґܣ) ׁrјғׁ:Ӭ..Ȕrʱғז:IN.rϸܣ# ю$ڝ Ͱ+́+˥$Љ$˪ ґՒ;Փٓ;ٖ$ݳ ݚϴ#Ǵݚϴ$ݳ ܟϴ.Ћϴ#ǴЋذSvv юmTOݨȓsթs˪mЩSPȓsթs˪mS݃KEȓtթt˪mBRއȓsթs˪mRUBȓqթq˪mSURϣȞSu˪nQUEEZE ӬȓuڶȓuӭթuڷթvρmFLѸ ӬȓsڶȓsӭթsڷթtρmSQUEEZE FLѸ ʥmէ-јݺΎӬ:ڶ&Sρ#ΎSρ#ݺΎʥ Ӭ~ڶ#ڝȭڝ ٹvޥϳ ̈́vϿϳ ̈́vޥڧۨȔ~Մ~ӬĴST=޽(Ίۨ=޽=ʥı ޽(͌(݈ۨ է=޽=ʥı ޽(BηȔ;Մ;Ӭ(͉Ȕ=Մ=Ӭ=ROTˍ(̢Ȕ<Մ<Ӭ(˽Ȕ:Մ:Ӭ(ߞȔ=Մ=Ӭ(׮KSȔ<Մ<Ӭm݀VEL-ޥ٠ȓİΉİʥ=ϿڦıΉıʥ%ڇӖ%ARM ېALȓ?Ή?݇mէ-ͱAުڶ:Մ:Ӭ?ST&TOWʾSȔ=Մ=Ӭ]ST&˪ Aުڶ]Մ]Ӭ~ψ=TOWʾSȔ|Մ|ӬĳSTvϿڧۨȔİՄİӬĵST>޽)Ίۨ>޽>ʥĲ ޽)͌)݈ۨ է>޽>ʥ էĳ޽)Bη)͉Ȕ>Մ>Ӭ)̢)˽Ȕ;Մ;Ӭ)ߞȔ>Մ>Ӭ)׮KSȔ=Մ=Ӭm݀VEL-ϿٟȓĲΉĲʥ>ޥڦıΉıʥ&ڇӖmը͕ اȔ_Մ_ӬĲST<м-̭ȔıՄıӬĶST<ܞ-اƢȔĺՄ(ѪȔ;Մ;Ӭ(ԟȔ;Մ;Ӭ;ڷΉ(ާ ͕ ΉȔıՄıӬ[݇ȔıՄıӬ(͕ THδۨ;D ͌Ȕ^Մm٠ȓ(Ή(AL܏NˈmըڇӖ(͕ƿА(ѪƿА(ԟƿА(ާƿАm٠ȓƿА(ΉƿА(ʥƿАmը͕ǀ(Ѫǀ(ԟǀ(ާǀm٠ȓǀ(Ήǀ(ʥǀmըާ ͱPˊȔĲՄĲӬvϿ͕ƿ̚ȔĶӬ)Ѫƿ̚ ڷΉĵӭΉĵڷ݇ĵӭ݇)ԟƿ̚ȔȓĵӬȓĵڷΉĵӭΉ)ާƿ̚ȔĵӬmٟȓƿ̚)Ήƿ̚)ʥƿ̚mէ-Ͽ͕ƿϾȔĴӬ)ѪƿϾ ڷΉĳӭΉĳ݈ڷ݇ĺӭ݇)ԟƿϾȔȓĳӬȓĳڷΉĳӭΉ)ާƿϾȔĳӬmٟȓƿϾ)ΉƿϾ)ʥƿϾmէ-Ͽ͕Ȕ=Մ=Ӭ]ST=̹BҔD)ѪȔ)ԟȔ)ާ SNʐ<ڶ<Ӭmٟȓ)Ή)ʥmէ-ϿڇKҘרvޥARMƢȔȓ[Մȓ[ڷΉ[ՅΉvϿARMƢƿWʟȔȓĸՄȓĸӬȓĸڷ" ++
  "ΉĸՅΉĸӭΉvޥWRҰ ̮FٛTȓĲΉvϿWRҰƢƿWʟȓĺΉvޥϳƢSȓ|ΉvϿϳƢSƿWʟȓļΉmDYNAMICƘȔ&ӬuFASTuSԢu܍SEuRΫXEDuSIMUL܂EOUS) ʥuEޓOܖȨMEuЩDUALmцq RIMrըۨ;TILT!Ͽۨ!ޥ͕!Ͽ͕zƢmϣ ͺIִ؎ǝSE ЉȨLܰ@UPǱ΍ĳȨLܰmϠ̃WS ۨȶ&ռ&΍mDسMY Ϡ̃WS ռ ΍$Ύռ$ݺռ$ռȶmF׆ц ռv̈́v޼Dmϡ ׁrSQUEEZEDr̵EDp BԒȓwթpS нׁrWѹ ׁrн̵EDrWѹNҘէp WINKpLAڍSȶw΍wFԫTEٓpGAZE-ޥۨ= Ή>ʥuϿۨ> Ή?ʥuޥ͕DuϿ͕DuޥCIRCԑmCэKS PUFFEDtռtSݩEDm܍SE CэKS HIGHzՒzԢmΛSmNOSE ռr̈́r޼SsIGGLESmʎ BԢҘזqSݩҘINqBԢȔȇTˍSqSݩȔȇTˍSmBREˊ INHʖtEXHʖmզ ̶ռzЉz̈́sSM҅x ޼DyׁsF٣x ޼DyׁsׁƢxЉx޼DxOVAL# ޼D$YAWNxض) ޼D+YAWNsәw Љx޼Ds܍SEx ЉySݩEDmԓS PRχEDȰp ԥיȶ׳qހי ԢERmզ ͉Ss޼Sȓ#Ήmܺ SܧҘזƲRtLѸҘԓStܲ˪ ԓSxTOݨҘҝ զtҝ զ RΫXEDtMטS AGʍST CэKt̜ SܧҘז!ҝ զnEϋr էsִܺ# էvԓSz էs˰E ԓSmըJAWvϿJAWmNECKmкmEXCITEՍmښ SPҔz؎Smޥښ MטmϿښ MטmSѧLͪȨLܰƷȸҰmܾSO-ޥۨ ۦETCH$͖BηsϿTWISܰmހBODYȨLܰƷ HIP ҽTSmԍB ̹BINˍrԁ-1y2y3y4y5y6y7mϳmLOCˍ-ޥۍvϿۍu HΥv޲vDEPTHvц NECKvܾSOvԍBS DҁTSm̼mВmڂm̷mת𐀐mϯ ա-2!3!4!5!6𐀂mROTˍ ա-2&3&4&5&6&7&8&9&10(1(2(3(4(5(6𐑑aӯFκƪȻTR҇tكٻGgԇݓGgںكKgԇӡˤgںLϢɘtݓ޾ˤtكκtݓRɐƅـuɊƅـgԆRύɘgںυȻΉƚ=ƅCURLtݓTɁgԆҥХɁnۦEṬCɁgԇݓKgںӡϷџtDϢƪɕtӡˤƅנџtκɕtݓRɕtRȻϷџƅנџtTυƪɕtϢɕtDϢƪɘtIɚƅـtOɘtTυƪɘtCɘtSɁ𐃢a̻ТTICǍZU$BUKY$VEDE$Т$DÕ$YψU$ZHҴTE𐀂%EMLJA$Iߜ$қIߜ%$΀I$ӄO$ԗ$խ$NAڑ$ONU$POKOJI$ٙSI$SLOVO$ݕ$ݭ$FٙU$ѐU𐀃$Sѩ$TSI$̪$ڇ$߉(I%ˌ𐀂%U$ڶɡ𐀂$YO$Ҩ܈ڶɡ$˭$Ҩ܈˭$Fұ𐃖a֡AKκ PUACHUE HMֽǌMA&݋&NTA&TA&HA&NA&XA&NKA&CA&LA&SA&ZA&NCA(݋&KA&DA&" ++
  "֠(RA&VA&NTXA&TXA&FA&RA&QA&YA&NQA&PA&XYA&NPA&DLA&N؄&ж&MLA&؄&GA&٤&A(A&I&U&O(O&E(E&W𐀄xܹB$M$J$V$S$G$DwȑƵ׸)THҗ)LOCˍ)AN҈L)INލTEBRˈ$XW XWx۸ԁEչ𐀃x͸%ַ%ݙ&Ѩ%Њ&Ҵ%ګ&ϔ%Υ%ք𐀅xLOG֨ ֠Jx̰CA𐅁aTOTOǌPAmBAmTAmDAmKAmGAmMAmNAnGAmSAm̞mYAmWAmJAmHAmRAmLAmIm˿ImIUm˿IUmUmEm˿EmEOm˿EOmOmAEm˿AEmAfڠ٘ܵ𐀒aWAN̨ǍApoBAoCAoDAoGAoYAo׺oLAoNAoPAoTApHAoFAoSApHAoJAoZAoWAoVAoKAoOoAUoRAoMAoӐoHAoEoIoվoUoLԉo݋pRAoֽoAʮpNGoҗoONoENoAANo֠oUENoYIHhܶTUPpNImKOIpNIh͸nַnݙoѨnЊoҴnګoϔnΥnք𐀆hNGUNȑ𐓡aό۸HHYAvUvIvAAvEEwvO𐀂sGURʉ HHWAsHHWIvEEw𐀂sGURʉ MWI#EE𐀂zQWI#EE$zBWI#EEzKWI#EE$zGWI#EE$zFWI#EEzPWI#EE𐀂aMηE KIӄUI ۸Mɳ KI!2Ǉ!3 KUz65 KEEz95 KEz76 KOOz48 KOy179 KUAy004 WI!5ȸ!6 WUy126 WEEz18 WE!4 ޹y045 WOy194 WUIz43 WEIy061 WVIz49 WVAy139 WVEy007 ՜!8 Զ!9ǙNz59 Ռz94 գy154ǙANz89ǙENy010 BI!1 BA!2 BUy150 ˟y097 BEy103 ˹z38 BOy013 I!4 A!5 Uy163 EEz00 Ez65 OOz47 Oz37 EI!1 IN!5 INz95 ANz78 ENy019 SIz20 SA!1țy162ȏEz16ȏz36 SOOy079 SOy196 SIAy025 LI!6 LA!7 LUz84ǋEz73ǋz54 Ԟy153 LOz10 ԛǋy016 DI!7 DA!8 DUz89 ͦy180 DOO!1 DOy022Ȩ!3ȟ!4 TUz91ȣEz55ȣy104ȬOy069Ȭz28 JI!9 JAz30 JUy157 JEEz13 JEz60 JOOy063 JOy175 ԜJOy031 YI!2 YA!3 YUy109 ߂y080 YEy141 ߐz21 YOy034 FI!5Ʋ!6 FUz78 Ϩ!5 FEy133 FOOy088 FOy197 FUAz01ƲNy037 NIN!8ǛN!9 ֟y117 NENz69ǝNz76 HIy041Ƽy186 HUy040 эz96 HEz42 ўy140 HOy083" ++
  " эIy128 ўUy053 HINy130ƼNy087 HUNz52 HENy193 HONy046 HUANz90 տIz43 տAz82 րy115 տEEz46 տEz56 տOOz20 տOz59 տAAz27 րAy086 ԜտEy106 ԜտOOz83 ԜտOz55 GIz11 GAz68 GUz90 GEEz66 GUEI!7 GUANz84 NGENy057 ւNy177 NGUANy068 PIz99ǵz50 PUz81 װz51 PEy102ǺOy066Ǻy145 MBIy062 Լy122 Ծy047 M˟y188 M˟y072 Խy172 M˹!4 MBOz87 ԾUz61 ԜԽz05 ԜM˹z42 ԜMBOz32 KPIy092 KPAz74 KPUz44 Kװy108 KPEz12 KPOOz58 KPOz24 GBIy056 GBAy148 GBUy093 G˟y107 GBEy071 G˹!0 GBOy171Ȅz23 NDI!9 մ!5 NDUz91 Nͦz19 NDEy067 յO!4 յy152 ։z92 NJUz49 ֊Ez34 NJOOz82 VI!5 VAz51 VUz73 VEEy085 VEy144 VOOy077 VOy164 ֡Ny058 N޿y170 NYUNy098 NYENz60 NYON𐀃oͷuݙvѨuЊvҴuګvϔuΥuքo̻֙TΣS+NS(ѫS&ȦS(܎S(ѫȦS(՛𐀪aADӧ ̐ʜFvDAʜvLAAMvMIIMvBAvSIN֡IYHEvPEvBHEvRAvEvFAvIvOvͭvYHEvީv֟vӃvYAvUvJIIMv̧vHAvQAAFvGAv֠vTUvNHAvVAvӐvGBEvZALvKPOvڇgںʜFtDAʜtLAAMtMIIMtBAtSIN֡IYHEtPEtBHEtRAtEtFAtItOtͭtYHEtީt֟tӃtYAtUtJIIMţtHAtQAAFtGAt֠tTUtNHAtVAtӐtGBEtZALtKPOtڇgʜF ԁEչgޟԁEչgКˎgрg͂ աgКˉ͂ աg֗hASʜZˎ𐀅g͸mַmݙnѨmЊnҴmګnϔmΥmք𐀅gқϛoت𐌒aҎѳSҶQ ֚tݙuѨtЊuҴtګuϔtΥtքt܍uެuќtЈuѿtگuϗtΪtֆtֻtݟuѨǁtЊǁuҴǁtګǁuϔǁtΥǁtքǁtַȦtݙȦuѨȦtЊȦuҴȦtګȦuϔȦtΥȦtքȦt܎uެȦuќȦtЈȦuѿȦtگȦuϗȦtΪȦtֆȦtӦHxANmӦHǔm֘ǇRORyANtPREϻǯ$ݙ%Ѩ$Њ%Ҵ$ګ%ϔ$Υ$քm؅HְmЏּzмvܢm٨ǔm֙ʤַ%ݙ%܎mʤӦHǔ𐁍aOTTOԷSҶQ ֚vݙwѨvЊwҴvګwϔvΥvքv܍wެwќvЈwѿvگwϗvΪvֆvֻvݟwѨǁvЊǁwҴǁvګǁwϔǁvΥǁvքǁvַȦvݙȦwѨȦvЊȦwҴȦvګȦwϔȦvΥȦ" ++
  "vքȦv܎wެȦwќȦvЈȦwѿȦvگȦwϗȦvΪȦvֆȦoMA٤܂oʤ֘ȵ)Ѩ(Њ)Ҵ(ګ)ϔ(Υ(ք(܍(Њǁ(ګǁ(ݙȦ(܎oЏֺ#ګTH𐃃aʻ Ի ʗuˡuҺu͜𐀂uީuߔuжu۾u߃uӃuӧuՇu֍uڀuʍuϩu٬uآuغuڎu܉vяuӑuܒu͙uߓuОuΆˡ$֍$ϩ$آ𐀂uқˡ$Һ𐀂$я𐀃%AH𐀂$߃$Ӄ$ӧ$Շ$֍$ڀ$ʍ$ϩ$٬$آ𐀂$ڎ$܉%я$ӑ𐀂$͙𐀂$О𐀇u܀ΟҺ𐀅#ж𐀂#߃𐀂#ӧ𐀂#֍#ڀ#ʍ𐀂#٬#آ𐀂#ڎ𐀃#ӑ𐀂#͙𐀂#О𐀂#Ά֍𐀂:آ𐀂uۦEṬˡ&Һ𐀂&я𐀃(AH&۾&߃&Ӄ𐀂&Շ&֍&ڀ&ʍ&ϩ&٬&آ𐀂&ڎ&܉(я&ӑ𐀂&͙&ߓ&О&Άˡ𐀂=ϩ𐀂uԟΟʗ#ˡ#Һ#͜#я#ީ#ߔ#ж#۾#߃𐀂#ӧ#Շ#֍#ڀ#ʍ#ϩ#٬#آ#غ#ڎ#܉$я#ӑ#ܒ#͙#ߓ#О𐀆uΌˡ.Һ.͜𐀂.ީ.ߔ.ж.۾.߃𐀂.ӧ.Շ.֍.ڀ.ʍ.ϩ.٬.آ.غ.ڎ.܉:я.ӑ.ܒ.͙.ߓ.О𐀵tǰ ՇȻй܄L%й͜𐄏aMAHJֽ ܬ EAST ޵nۉ ޵nޭ ޵n֏ ޵nظΗnвΗnޯΗnַǦnݙǦoѨǦnЊǦoҴǦnګǦoϔǦnΥǦnքǦnַǥnݙǥoѨǥnЊǥoҴǥnګǥoϔǥnΥǥnքǥnַǧnݙǧoѨǧnЊǧoҴǧnګǧoϔǧnΥǧnքǧnPԩnOŖDnBAM˹nCHRYٳܓMUMnSPٓoUMՎnAUTUMNnWҠnҿn˕𐀅aDOMI֌ܬ Ѣ˕wɢɢ#1#2#3#4#5#6y1ɢ#1#2#3#4#5#6y2ɢ#1#2#3#4#5#6y3ɢ#1#2#3#4#5#6y4ɢ#1#2#3#4#5#6y5ɢ#1#2#3#4#5#6y6ɢ#1#2#3#4#5#6mޏ˕uɢɢz1z2z3z4z5z6w1ɢz1z2z3z4z5z6w2ɢz1z2z3z4z5z6w3ɢz1z2z3z4z5z6w4ɢz1z2z3z4z5z6w5ɢz1z2z3z4z5z6w6ɢz1z2z3z4z5z6𐀍a؄YҘCʾ ˕nACEǫnݙǫoѨǫnЊǫoҴǫnګǫoϔǫnΥǫnքǫn܍ǫnҸǫnӜǫnبǫnӖǫ𐀃nACEǪnݙǪoѨǪnЊǪoҴǪnګǪoϔǪnΥǪnքǪn܍ǪnҸǪnӜǪnبǪnӖǪnظҿ𐀂nACEǩnݙǩoѨǩnЊǩoҴǩnګǩoϔǩnΥǩnքǩn܍ǩnҸǩnӜǩnبǩnӖǩn˲ҿ𐀂nACEǨnݙǨoѨǨnЊǨoҴǨnګǨoϔǨnΥǨnքǨn܍ǨnҸǨnӜǨnبǨnӖǨnޯҿnFOOLnT٦P-1t2t3t4t5t6t7t8t9t10u1u2u3u4u5u6u7u8u9t20u1𐀋a͸ Вl̼gָ̼gݚ̼gܟ̼gЋ̼hҵ̼gڬ̼hϕ̼gΦ̼gք ̼cNGBAT ̰ٴ ͸iն̰ٴ ͸a̰ߙȻڲiʷƖi΂ȻכID ˕ڲaשҷӮ̑:B:C:D:E:F:G:H:I:J:K:L:M:N:O:P:Q:R:S:T:U:V:W:X:Y:ZaܿΟӮ̐Sa̰ұLѳӮ̐C;RiCDiW" ++
  "ZbOPYӲȞa۔ Ӯ̑%B%C%D%E%F%G%H%I%J%K%L%M%N%O%P%Q%R%S%T%U%V%W%X%Y%ZiHViMViSDjSiPPViWCaն̰Ӯ̑=B=C=D=E=F=G=H=I=J=K=L=M=N=O=P=Q=R=S=T=U=V=W=X=Y=ZaدMCȑiDȑiRȑa̰CCjȻכID ˕ڲiHUԷϭaն۔ Ӯ̑=B=C=D=E=F=G=H=I=J=K=L=M=N=O=P=Q=R=S=T=U=V=W=X=Y=Za͍ն۔ Ӯ̐Paն۔ ICrPArSArABrWCaےDJgDƣjOOLiFعiIDiսjGiOKiSOSiUPȻϛiVSiܟDiٽ ٺiݚKiЋKiΦKiFҵ؊ǯiSϕ؊ǯiݘ-ݚ؊ȵiگ Piֻ ݘ PiӯDiHCjDRjI-ؾiLOSSLχiSHViUHDiVODaMASK ޺KȞ𐀹aREGҧALǄȞǍ+B+C+D+E+F+G+H+I+J+K+L+M+N+O+P+Q+R+S+T+U+V+W+X+Y+Zaےњ HOKAgD ӌ KOKOrSA𐀎iCJӀѺ-624B&5B57(3CCiӌƨiCJӀѺ-4E8C&591A&89E3&5929&4EA4&6620&7121&6599&524D(F8C(18D&65B0&521D&7D42(51F&8CA9&58F0(439&6F14(295(355&4E00+9&904A&5DE6&4E2D&53F3&6307&8D70&6253&7981(A7A&5408&6E80(709+8&7533&5272(5B6&914D𐀅aܿΟCJӀѺ-672C~4E09ı8C~5B89~70B9~6253~76D7~52DD~6557𐀈a̰Ѻ ADVʴʉtCCEPT𐀏a٢۹ƵFUtLUtSѧtXItڛʮXItCAI𐂛aCYCLַaFOGGYa̶ݲaNҀȻ۝Sa۲RҫǴMגShaCITYٷƙDUSKa۲چǴ̅Saخ˼âƙNҀaަ ާaVOLCʳa՚KYȸYaΜ GLOBE ϑPE-AFRICAmAՎICASnSIA-AUۦʜAaGLOBΙՎIͮNSaս եȞaWAXҘ͊ եȞaFIRۛȞaWAXҘGIBBהեȞaFݯ եȞaWANҘGIBBהեȞaLAۛȞaWANҘ͊ եȞa͊ եaս եȻϣaFIRۛȻϣaLAۛȻϣaFݯ եȻϣa۲ȻϣaGԢҘ۝aSўTҘ۝aܖMOME܏a˲DRO؆Taޯ۲jȻڶƣOUDkˡҎƣOUDwȻخaCLOUDȻخlS֖lԋNҗlܾNADOaFOGa޵ BԢҙaH׍DOGaTACOȧٙOaCHψNUTaSEEDԑaEލв݂aDECIDUה݂aןM ݂aCACTUSaH׍PEP׳aTUԓaCѐ٩BLOSSOMaROSEaHIBIS͗a۲ЂaBLOSSOMaΛǢǓIZEhRѷaѐBaЋӱƣיaMA؆ ӱaFʟδӱaӱ FԫTEٓǃ޵aMއROOMaTOMˏaAU˦GҔa" ++
  "Щ׹aMβNaަMβNa܂МҔaLEգa˘ʪaPҔAP؆aظAP؆aвAP؆aPΛdCHaCѐهSaۧW˦RYaп̇МaSLѷǣPIZZAaMΝǬBַaPOݰ٩ԀaRѷ CRACKERf˗aCֿΟRѷbURRYƅRѷa۟AMҘ˼LbPAПTTIaBشaFؼCH FهSaROAS܈SWEETǺTˏaDAւaODENaSUڑaFRIΟSHRIMPbҬơKΙ۷ͫIGNaۇ ѷ CسMbHAVΟѷaѷ CسMaDOUGHNUTaCֿIEbHOCOLˈƚbʭYaLOLԓOPaCU۝DaHַYǺTaڗCʐa˥O ˽aPOTǣF־aCOOӖaІKƅӛaTEACݺ޷тLEaSʐ BOTܳƅCUPaWҔ УaC֦܀ Уa݉PѵDْKa˟RǙGaCԒҘ˟RǙGSaBẢBOTܳaІKƅӛȻPLˈaBOTTLΙPOPPҘ͈KaPOP͈NaنaWRAؔPؾλaBIRTHDAY CʐaҸ-O-ӫ܏Na̩ ݂aFAܖ ̩aϵ޺KSi ێRa˗׀a׫YǺP׳àFETTI ˗aTʪBˆ ݂a͍ϼSaPҔƨ͈ˍaҹ DֱSa̕P STسՎa޵ ̧MEaե VIEWҘCEREգYaSCўL SˇELaЩDUˍơPaшȻִܲܔӲaBOUQUETǣЂSa՚I܃YǕ͜aREMҎτنaլ ӎ˷ȻҸSaSTUDIO MI͋PHַaԈSLIͪà݉L KNOBSa˞MΟASCηҘլǟShͫCηҘլǟSaFILM FRʧSaAD՟ ܧETSa̕וL ѦaFERRIS WюaRֱτCOAۡaϷҘ،EƅϷaMI͋PHַbOVIEơՎAaCҔMAaцPHַaARTҰ ןώaܼHATaCIR͗ TλaܧETaCLAPPτ˷a׳ЇҘARTSaVѹO Gʧaͺ HITaSLOTǓCHҔaB҇IʾSaGʧ DIEa˼ԑaFԥ؄YҘCʾSaլǟaթ լǟSaSAXOPHַaGUI܃aլ ӎ˷aT٦PETaVIOLINaլ SC׆a٧NҘڑRTȻS˃a܍NISȄCQUETƅ˗aSKIƅSKI ˹Ta˜Ӎ˗ƅўPa̡QUEظϼaS֖˷ERa٧չaSURFERbP׊SǕ͜a݉PHYaѦȄCҗaAՎICʩЅ˗aRUG̉Ѕ˗aSWIMՎaWΦLIF܏aGOLFERaRACҘMOܾCYCLEh̕aCRѸωBATƅ˗aVֱEY˗aFIELD HOCӎ Sܧƅ˗aѷ HOCӎ SܧƅPݩaTA˵ ܍NISǵDDLEƅ˗aS֖ơؔMגaCAM؂a˞CHȻݲa̅ ۪̀aHו ̅SaCITYٷaͪίCT Hו ̅aCL˄ѵ̅aDEڅTg ISLʭaNˍʑפKaۜDIUMaHו ̅fȻGʾENaOFFѷ ̅aҹ ؏ǢFѷaϑPEʩ؏ǢFѷaHOSPұLa˘KaAUTOMA܈TELLERǓCHҔaHOTELaLט HOTELàVENIε ST׆aSCўLaDE׫Ս ST׆aFACܾYaIZAK˒ ӫ܏NaҹơSܳaϑ׮NơSܳaޯױNʴa˲ױN" ++
  "ʴaWAVҘޯϼh˲ϼaROSώa˱ȇSώaLAˢa˖՜ܴȄCQUETƅڛTܳC֦bOWƅˀaAMPѠAaEMOJI ա FITZPATRѸ ݣ-1-2)3)4)5)6aRATaMוaOXaަ BUFFALOaCOWaTIМaLEOPʾaRAB˰a̘aΗa͋COD҅aWHʖaSNʌdKEaѦaرaG֤aSэPaգӎaROOۡaCHѸENaDOGaPIGaBOARaEԄʴaOCTOPUSaېʑڏaBUGaʴaHַY˟aLADY ˟ܳaϷa݉PѵϷaBԢϷaݑܳaHˇҘCHѸaBẢCHѸaFٛTɥBẢCHѸaBIRDaPκUINaKOʔaP־LEaDROՁA٩CʧLaBACTRѱCʧLaDOL׻NaMוƳaCOWƳaTIМƳaRAB˰Ƴa̘ƳaΗƳaSPזҘWHʖaѦƳaգӎƳaDOGƳaPIGƳaFROGƳaпۡƳaWOLFƳaBΛƳaPAմƳbIGǝSEbAW PْTSa̧PMUNKaϡdbARaNOSEaզaܺaޯUPǾg΍ǾgӲǾgىǾaFIS܈тȑaWAVҚȑaOK тȑaܣSȶȑh΍ȑaCLAPPҚ٫aׂт٫aC٣a޸SƼTaϠУESaNECKܨaT-ڑRTaJEANSaDRχaKIդaBIKINIa޸SƣOܓSaPURSEaтBAGaPOݨaԶS ڕEaˊLEܦڕEaїюΟڕEa޸S ٳ͜h˹TSaЅPْTSaBUSTǃS҆eSǃS҆bOYaGIRLaԶa޸aFA՚YaԶƅ޸ H֫ҚSaݚMδH֫ҚSeWOMδH֫ҚSa،ѷǢFѷRa޸ȻBUNNY ΛSaBRIDΙVEILa׸ȻBLOND кaԶȻGUA PIǓOjݑ˘aְ Զg޸aBABYà۪ ޺KERaPْCχaҹ OGREjGOBLINaGHOSTaBẢʮELaEX݀܏REۦѰʜENaʜδգۡaIMPaSKݯaҖͫK ׸aгSԶaDAճRaԓSܧaNʌ ،Ҭaϣ M˄ʉaкCUTa˙Bτ،EaSYٓEaP҇aәǔaLט LώRaٓaGEM SܵaәaBOUQUETaCOUPLΙшaWEDDҗaBΝҘшā шaݚшSaSפKLҘшaGROWҘшaшȻˀa˶ шaвшaYELԣшaPUR؆ шaшȻنaREVOLVҘшSaшƨ͈ˍaʹ ڇPΙAƬ ҝaELΞRѳԌBULBaANМȞaBOMBaڳҗȞaCֱIڨȞaSPL˃ҘSWΝȞaDRO؆Tb˃ȞaP҅ǢǺOaFLEXΟBѷPSaDIZZYȞaۏ ˗׀aTѧGHT ˗׀aޯЂaѫ ؊SȞaMַY BAGaCކ EXCHʮEaы΂aCطIT Cʾa˘K֓ΙYENȑo΂oϑȑoPבDȑaMַ޾WҗSaCфTȻބTRηƅYENȑaSΝa׸ʑ̿aBهFC˂a՜IͻCaFԠaOPTѵͻCaDVDaF҅ FְaׂF҅ FְaPʉɁfFACҗȶaCʖմRaTΛ-OFF CʖմRaCʾ ҐbфTȻބTRηlΔTRηa˙ CфTaCԓ˷aPއ؁a١ P" ++
  "އ؁aPA׳Cԓaۨ RULERa݆RULERaBֿԺ۽SaLEDМa֓EBֿiȻDE͈ATҵCיa̶BֿaׂBֿaвBֿa˶ BֿaOزBֿaBֿSaNʧ ˖GEaSCRֱaՋOa܌aPAМaFAXǓCHҔaSˈLԔE ʴE֋aPUBLѳADDRχ LOUDSPEʐRaCэٓǕGAPHַaז˽ ݀YaIN˽ ݀YaPACKʉaE-MʌȞaIN̹ҘνaνȻΕƁa̶Mʌ˽ȻԢEظϼuدϼaׂMʌ˽ȻدϼsԢEظϼa؏˽eʑѥaսSPA׳aՠַmȻّƙӲaVIBRˍ MODEaՠַǢFa֌ՠOպaAN܍Nʀ˙SaCAՎAgȻFL˃aVѹOơՎAaTάVIڨaRADIOaVѹOC˄ώaFILM ؚJECܾaP׊A˵ ۡEObRAYτ˞DSaTWIS܈ّSa̴ ُƅӾׂ̯SĵȻָ̰לkΓƅބׂ̯Saʷ Γƅބׂ̯SaԣBىջȞaіBىջȞaSPEʐRȻ̋ӰșhhȻַȕ ާnܞȕ ާSaBAT܏YaELΞRѳPLUGaӻMAGNIFYҘУaَMAGNIFYҘУaL֦ȻINK ױa̶L֦ȻӎaӎaL֦aׂL֦aˢLeȻ̋ӰșbֿԹKaԒȞaRADIO ܴ̈a˕ȻӿƁaηȻӿƁaONȻϛȻӶƖƁaS׀ȻّƁaTOPȻޅƁa֌ָݳ ΧȞaӎCʹ܍aINPUTȞƵӮ̏LώRSxڷLώRSr֘Sr۹SrӮLώRSaϵaELΞRѳܾCHaWؼCHaпՎaNUTƅBOLTaHǪaPIۤLaMI͋S͇EaTάS͇EaCRYSTʑ˗aګǻ۝ȻՔaҹȞƵBEGINչa݃ͩ EM˵Ma˴ ܴ̈aޱ ܴ̈aӭطƢg˶ƢgOزʹg˶ ʹaڷOزʹg˶ ʹaݾظ݄aΒظ݄aݾڷظ݄aΒڷظ݄aԦڊްaހيڊްa̰͌ǺMMEEa͌ǺMMEΙм-̭Ɯma֕ӳځ̭Ȼܠiيځ̭ȻܠaۺІǔS ̞P܏aޯӮ͌aыӮ͌aCELܦ͌aOMȞaDטǣ׮CEaӂBAaMOSQUEaSYNAGOGUEaՌORAHȻք BRAN̡Sa˼LǣHYGIEIAaCL֦ƳǯǡlݙǡmѨǡlЊǡmҴǡlګǡmϔǡlΥǡlքǡl܍ǡlήǡlݖǡlַɯlݙɯmѨɯlЊɯmҴɯlګɯmϔɯlΥɯlքɯl܍ɯlήɯlݖɯaيSPEʐRnȻַȕ ާtܞȕ ާSaBݯѥi ޶ȕ ާSaٓҘˢLaBֿaCʭLEaMʴEL׾ƣ֦a˲SKݯƅ͌BOպa֌PIRACYaHOLEaԶǃBUSIջȝǋVұܰaSLϒHǱSPYaDARK ۲УESaSPIͪg WEBaJOYSܧaԷDʬҗaӳт ܌a܌ȻPʉaيт ܌aޯTOݨܶ܋a˱Ȭݨܶ܋a܋ǬTOPǣMODEMaCӧڏ ՠַa˕ǣνaۜMPΟνaνȻԋNҗaFLYҘνaױǴۜMPΟνaԒEDǵ׳CԓSa˲Pއ؁aԥӳױCILl˗؊ ױlFג ױlPʍTBRއlCRAYONaӳWٙҚaݓOK тȑaدтȻϴ S؄YEDaكدтȻϴ S؄YEDjܣSȶȑq΍ȑjVICTO٩тjтȻՓϳ ϜηEDaد"

def namePart8 : String :=
  "тȻ׫ ˪ Ւƅٔϴaޯ΍ǽӳт ҐaڞޯӲȀpىȀj˲ӲȀpىȀa˲ӲǾgىǾaڞޯUPȀp΍Ȁj˱ȶȀp΍Ȁa˱ȶǾg΍ǾgшaͫKܼ̿aӎ˷ƅMוaܟNET޺KΟ̿SaPRҠbOCӍơLCݮܾa˲Hʾ ڏ FԠaޯHʾ ڏ FԠaۇ ڏ FԠaTAPE ݃̕DGEaWIظӎ˷äָTִMוaݚ̈TִMוaܟ̈TִMוbRACK˗a֬׸ʑ̿aHʾ ͻKaٺaPRҠ ÌaFAX ÌaOPTѵͻC ÌaDOCUՍȻTϜsƅPICݑEoPICݑEaFرΙPICݑElܬSlʩXa˲FְaFְaׂFְaCʾ ґ;SfF҅ ˽aF҅ơBҔTaγ֓Ek PʉnDa֓Ee PʉhDaγDOCUՍgPʉkSaDOCUՍaPʉeSaWA۟˜ӍaېALǟǵDhCʖմRǵDaͫKܼ޵OWa՜IMIZEbAXIMIZEaכPa̴ ىƍځ̯Sa̋Ӱ Xaҍ ЃT SIZEȞaDECRE˂ ЃT SIZEȞa̹Pؾڨa֬ӎaRֱED-ݺսSPA׳aPAGΙ̰TϜaST֦ CфTa͚GτӛaԓSaS׮KҘцǃS҆aܞȄYSƁlˣlӲlىaӳۏƟaيۏƟaݚۏƟSaܟۏƟSaӳTѧGHTƟaيTѧGHTƟaӳANМƟaيANМƟaM־ƟaԋNҘM־Ɵoa˗׍˽Ȼ˗OThٻXh˽ȻٻXi֬ٻXjXȻ˸ٻXaԌ̢ǔa˗׍˽Ȼ˸̢a޺LDǓPaMבT FUJIaTOKYOȬWERaۜTUEǣLI˦TYb҆ǣJAPANaMOYAIaGْNҙnȻۅaϤTΛSǣJOYaۄ Ϥׂզ$ƅۅ+C֬SWΝ+TҀLY-̶ϡsлOsѥSaWINKҙaۄ Ϥۅaϣ SAVOUٔDίCIהF־aRίEVΡaۄ ϤшɬΟϡs۲УESdRKҙaռƳaEXPؾڨLχƳaUNAMUSΡaϤC֬SWΝaױSҴƳàFUSΡeבDΡaәҙaϣ THROWҘA әaәҘϤۅs̶ϡaϤSTݩ-ז ܺ!ƅWINKҘϠ(TҀLY-̶ϡaͻAP؊Ρa޺RIΡaʮRYƳaPזҙaCRYҙa׳SEލҙaϤLֿǣ݃UMPHaͻAP؊Ο̈ RίEVΡaF٣ҘϤׂզaʮUҬΡaFΛFULƳaWΛYƳaڳYƳaTIRΡaGR҈CҙaLOUDLY CRYҙaϤׂզaHއΡaϤׂզƅC֬SWΝfSCسMҗǃFΛaASܴҬΡaFLއΡaڳҙaDIZZYƳaϣ ޷զj ՁѴǓSKaGْNҘ̘ Ϥۅa̘ ϤTΛSǣJOYaۄ ̘ ϤׂզwшɬΟϡa̘ ϤW٩SM҅aәҘ̘ Ϥ̶ϡaPזҘ̘ƳaCRYҘ̘ƳaWEA٩̘ƳaSԋLY F٣ҙjۄƳaUPڝ-΍ƳaϤRֱҘϡk֌G־ GESݑEkOK GESݑEa׸ ˼ҘͦPLYaSEE-NOɤaHΛ-NOɤaS׮K-NOɤaHAPPY ׸ȄISҘָтa׸ȄISҘB׎ тSǃCάBRˍhF٣җgȻPזҙmF֫ΟтSa֒ǽӱaیǽӱa֐ǽӱaۊǽӱaݓ֒ǽӱhیǽӱh֐ǽӱhۊǽӱa֒ǽޕaیǽޕa֐ǽޕaۊǽ" ++
  "ޕaы֒ǽޕgیǽޕg֐ǽޕgۊǽޕa֒ǿaیǿa֐ǿaۊǿaы֒ǿgیǿg֐ǿgۊǿbOLԣثLT ۑǳ$ǃ˴aSOLID ثLT ۑǳ#ǃ˴aӽȈӍaރȈӍaُȈӍaΓȈӍaٻԊETǳaыٻԊETǳaԊ׃TǳaыԊ׃Tǳgʨǳa۶ʨǳaٴ ыΊݓ̽y̽rԣΊ̽aыҡǳaٴ ҡǳaыٴ ҡǳaޓыۈlقa̢τ˷aف ̢τ˷bOCӍaHί͇܏a۟AM LO̹OTҴaRʌު̕aїSPEΟTخqȻ̆ǝSEaTخaME݉aԌRʌaSTˍaTرe ̕aBUSaֶBUSaTRֱEYBUSaBUS ۥa՜IBUSaAMBݮճaϵ κҔa،ѷ ̕aֶ،ѷ ̕aTAXIaֶTAXIaAUTOMOB҅aֶAUTOMOB҅aصREˍʑVEHICLEaDίޓTRݩaARTICݮ܈LORRYa݀CܾaդRʌbג RʌWAYaSUSױڨ RʌWAYaMגơ˵WAYaAERѰTرWAYaڑPaROWB֤aSװDB֤aѢ݀FFѳԋaޏ݀FFѳԋà۪ȑa،ѷ ̕SȅVOLVҘԋa݆ϼǬ؏aDOORa֌λRYȑaSMOӖȞa֌SMOӖȞaPUT Ԕ܏ǃITS ؅ȞaDO ֔Ԕ܏ȞaPOTA˵ ަȞaNON-POTA˵ ަȞaˬEa֌ˬESaˬҰaMג ˬҰaׯa֌ׯSa̧LDRδ͌җaՌSȞaWOՌSȞaؾ݉OMaBABYȞaTO҅Taަ ̵ETaڕWERaBˊeTUBaP˄P׊ ̀݉LaCUۤMSaBAGGʉƣAIMaӳLUGGʉa݄Ȼ٢͉SaؚHI˰EDȑa̰ҖSדCEaBOYSȞaGIRLSȞaCOݨƅӧPaڳҘAC̹MODˍbHOPPҘBAGSaˢLHOP ˢLcDa؅ǣ޺ڑPaOCTʊʓaڕPPҘTRֱEYbTUPAaPAGODAaHҎUȣM؆bUTaάVAܾ𐀆a؄YG١ SLѹaWюaٔBUOYaпՎƅWؼCHaڑELDaOIL D٦aMOܾWAYaRʌު݀CKaMOܾ B֤aݾ՚ұ٩ʏmʏmڷʏaڷʏa֏EAST-؋ʏaʏƨפݑEjARRIVҗ𐀄aSˈLԔEaֶϵ κҔaDIESEL LO̹OTҴaP˄κτڑPaSCOO܏aMOܾ SCOO܏aCʳEaSLEDaFLYҘSAUCERaSKˈ˷aAUTO RѸڇWaPѸݺTRݩaRֱτSKˈ𐀄aAL̡MѴȞƵثNTχεwʎwϵwΜwަwAQUAF׊IS!ȅGIA)-2#VұE)-2wVҔЙ%-2&3wSULFURw׻LOSOPѐSțLFURw˱țLFURwՎCU٩Sݧ>-2?3wCI֋˙wٯwևREwVI݃OL%-2wR֦ ٯ(-2wG֫wSILލwIRִ׆&-2w͋͗ǣIٛwREGݱSǣIٛw͇Pτ׆wIٛ-͇Pτ׆wSݧǣ͇׳w͋͗ǣ͇׳=-2xOPPτʶգIˈwٯǣ͇PτʶգIˈxݧǣٯǣ͇׳wލDIGRISwܯ ׆wLEAD ׆wʶգY ׆wSݧǤwٯǤxݧǣٯǤwVҔЙǤwREGݱSǤ@-2%%-2&3&4wALKʜ$" ++
  "-2wԹCASITEwٮ-AMգIACwARSENICwسLЙ%-2wAURIPIGՍwBISMUTH ׆w܃܃$-2wQUѸ ԍEwBORAX#-2$3wAԩwOILwېITwܯCݑEwGUMwWAXwPOWͪwCALXwTUTTYwCAPUT M׊UUMwSCEP܏ǣJטwCADUCEUSw݃ͩw۝ظ݃ͩwLOͫܵwSOAPwURҔwѦ DݵwAڍSwP׍AڍSwBRѸwPOWDEظBRѸwʦLGAMwۧTUMțPτۧTUM]-2xUBԍˍwPصIPITˈwDҰ҇zSOLVE&-2wPURIFYyTREFACܱwCRUCI˵&-2(3(4(5wʖMBICwBˊǣԹY&VAPדSwRET׊wHדwNҀwDAY-NҀwգTHwнDر#OUճ𐀍a˲ӻүي݄gݾүي݄gَүي݄gΒүي݄gSԋLYȔƢaՅ˸ްa˸ްaыްaޓыްaϜػްaް ͆˱ȔƢa١ ܃GETa˲ܯY ۑgSԋLY ۂaԌޱaՅޱa˸ޱaыޱaޓыޱaϜػޱaޱ ͆˲ޓۂ&Յۑaے܃GETa˲ܯY ʹgޓڷʹgՅڷʹaޯʹ ͆˲ޓڷʹ(Յʹaʹ ܃GETa˲ܯY ԧgޓڷԧgՅڷԧaޯԧ ͆˲ڷԧaܚN бaԌбaՅбa˸бaޓ˸бfыбaϜػбaܚN ٰaԌٰaՅٰa˸ٰaыٰaޓыٰaϜػٰaԌϹȗaՅϹȗa˸ϹȗaыϹȗaޓыϹȗaϜػϹȗaԌګȗaՅګȗa˸ګȗaыګȗaޓыګȗaϜػګȗaԌΥȗaՅΥȗa˸ΥȗaыΥȗaޓыΥȗaԌܞǼaՅܞǼaܞǼaՅܞǻ؃۝aԌЊǼaՅЊǼaЊǼaՅЊǻ؃۝aف ԌЊǻ؃۝aԌϹǼaыϹǼaՅګǼaыګǼaګǻ؃۝aՅΥǼaыΥǼaޓыΥǼaыΥǻ؃۝aԌݖǼaыݖǼv؃۝a̰݄aն̰݄a̰ۑaն̰ۑ𐀈aӭOز̭gYELԢƢgв̭gPUR؆ƢgB٣Ƣgظۑg˶ ۑgOزۑgYELԣۑgвۑgPUR؆ ۑgB٣ ۑ𐀅aыπ𐀐aӽƗڷ݅aރƗڷ݅aُƗڷ݅aΓƗڷ݅aӽƗՅ݅aރƗՅ݅aُƗՅ݅aΓƗՅ݅aӽƗӭ݅aރƗӭ݅aُƗӭ݅aΓƗӭ݅𐀅aӽƗڷσaރƗڷσaُƗڷσaΓƗڷσaӽƗσaރƗσaُƗσaΓƗσaыӽƗσgރƗσgُƗσgΓƗσgӽƗӭσgރƗӭσgُƗӭσgΓƗӭσaӽȳNˀȐaރȳNˀȐaُȳNˀȐaΓȳNˀȐaӽȳՄȐaރȳՄȐaُȳՄȐaΓȳՄȐaӽȳB֫ȐaރȳB֫ȐaُȳB֫ȐaΓȳB֫ȐaӽȳъȐaރȳъȐaُȳъȐaΓȳъȐaӽȳޓъȐaރȳޓъȐaُȳޓъȐaΓȳޓъȐaӾϳ-؏Ɩaބϳ-؏Ɩaِϳ-؏ƖaΔϳ-؏ƖaӾ۔Ɩaބ۔Ɩaِ۔ƖaΔ۔ƖaӽƥƖaރƥƖaُƥƖaΓƥƖaӾъƥƖaބъƥƖaِъƥƖaΔъƥƖaӾъƖaބъƖaِъƖaΔъƖ𐀉aӾٴƖaބٴƖaِٴƖaΔٴƖa֒ ٴƖa֐ ٴƖaۊ ٴƖgޭ ٴƖaӶ ٴƖaݺΎٴƖ𐀇aWѹ-цΟӾԋƛmބԋƛmِԋƛmΔԋƛm֒ ԋƛm֐ ԋƛmۊ" ++
  " ԋƛsޭ ԋƛmӽƛmރƛmُƛmΓƛm֒ƛm֐ƛmۊƛsޭƛmӾՄƛmބՄƛmِՄƛmΔՄƛm֒ Մƛm֐ Մƛmۊ Մƛsޭ ՄƛmӾьmބьmِьmΔьm֒ ьm֐ ьmۊ ьsޭ ьmӾޓьmބޓьmِޓьmΔޓьm֒ ޓьm֐ ޓьmۊ ޓьsޭ ޓь𐀉aӾ݅aބ݅aِ݅aΔ݅aӽȺɠ ݅aރȺɠ ݅aُȺɠ ݅aΓȺɠ ݅aӽƗ֕܀aރƗ֕܀aُƗ֕܀aΓƗ֕܀aъƖȐ ޲ǯyݡyֺ$ܜaӾ˺-ډaِ˻ډaӾܼډaِܼډaӾӲ-ډaِى-ډaӾى-ډaِӲ-ډaӾ˕ɰˀaِ˕ɰˀaӾFٛTɰˀaِFٛTɰˀaޯˀȐ ޲ǯyݡ𐀃aˀǽބTHδ֒pِܕی𐁏a̰͌ ЇEΙЌ!ݛuaӴ̭ȻЌwܠwݛw΃qa΍WʾƲCҘџq֕џqџɆq֕џɆa؁̣ϴaޯшaB٣ шa؁CHҚaZIP׳-զƳaMַY-զƳaϤܖMOME܏aչDƳaܚNKҙaϤц-BʭʉaROBOTƳaHUGGҙaڠOF ܔѥSaCʟǕ тaد˕ǣтaӲɥFҰaىɥFҰaтSHʐeȻҐƅՓϴ ͌EDaI Lט YOU тȑaϤCOWBOYƼTaCԢNƳaNAUSΝΡaROLԑǬܔϾ LAUGHҗaDROOLҙaLYҙaϣ ןMaSNEEZҙaϤָϠ̃WȄҫDaGْNҘϤ۝ ϡtָӬƅָڷϠaϤϳ Cט̶ٔԓSaڅIהϤ۹S Cטٔզaۄ Ϥۅƅт CטٔզaϤׂզ VOMIܰaSH֦ΟϤEXPLODҘцaPREGNʴ ޸aBسST-ϨDҗaןMSȶȰaSELFIEaPRIճaԶǃTUXEDObOܖ ̩aSHRUGa׸ DOҘ̕TWюaJUGGԑaFεRaMOͪN ײˊLONaWؾܳRSaަ ،Oaт˗aͽNGǓSKaWIL܈ЂaD٦ȻD٦SܧSaCԒҘУESaTUMBLτУaSP׀aGOʑNETaRIFLEa϶ ؅Ǖ͜aٽ ؅Ǖ͜aܜ ؅Ǖ͜a˽ҘGLטaԹTѰARTS UNIЇaCURLҘSܵaLA͌E Sܧƅ˗aۇ˗aFLYҘͻCa͋ISSʴaAVOCADOaCUCUM˦aBÀaPOTˏa̕ROTaBAGUώ BشaвSʔDaSлԢǵNǣF־bTUFFΟϽBشaEGGaУǣ՚Ka׮NUTSaKIWIFRUITaPʬʐSaDUMPԑaF׊UNE CֿIEaTʐז ˽ąPSܧSa˼ӡSP׀aCUPȻۧWbÒUTãCCOLIaPIEbRETZELaCUTǣMΝaSʭWICHaCANNΟF־aӱY GRΣaMAւbOִCʐaBʉLaۄ ϤۅƅܟшSaYAWNҙaۄ ϤTΛaϤ׫Y ѥƅ׫YƼTkUNϕϡƅިզaיHΝΡaFعZҙaNI։aͻGUISΡaϣ H֫Ҙ˕ TΛSeȻ؆ADҘϡaSARIaӢ C֤aGOGGLESaHIKҘ˹TaϽ ڕEaCRABaLҧƳaS͈PҧaݑӎaUNI͈NƳaEAGLEaDݩaBATaڌKaOWLaFOXƳä܏FLYaͦRaGORIԘaLIZʾaRH" ++
  "INOCEROSaSHRIMPbثDaGIRAFFEƳaZEBRAƳaHEDGEHOGaSAUROPODaT-REXaCRICӍaӅЙOOaLLʦa׮C֦aHIPPOPOTAMUSaפROTaRACC׀aLOBۡaMOSثTObI͋BEa˖МaSWANaMAMM׎aDODOaSL׎aOT܏bRʮU܂aSKUNKaFӧIւaOYۡa˞ލbISONaSEALaGUѹ DOGaؚBҗơNEaEMOJI ̹؍λ ظкq͓ кqBALDqޯкaBַaԀaЅaTO׎aSU׳ѐOfV҇ʍbAFETY VψaΛȻHEAٔAIDaMOܾҷWюCкbANUʑWюCкbE̞NѵARMlԀaCэSE WEDGEbUPCʐaٯ SHʐRaBEލʉ ˽aЙLICaONҧaFʔFELaWAFFLEä܏aMˉDْKaѷ CUBEaBUB˵ȣAaTRֱaSTʭҘ׸aKNEELҘ׸aDEAF ׸aϤդCLEaADݰa̧LDaְ ADݰaBEʾΟ׸a׸ȻцS̕Fgǃ۟AMYȇOMhCԍBҗgǃԡ ؎aMʉaFʎYaVAMPIREaՎ׸aELFaGENIEaZOMBIEaBخaOزшaB҇EDơPaS̕FaGLטSaC֤aS֦SaظGIFT νaϵCRACKERaJIGSAW PUZZLE ׾aTψ TUBEaPE݃ ͼaDNA ΊHίXa̹P˄aABA͗aϵ EXܰUISѐaTOOL˽aBRѸaMAGNETaLUGGʉbOܱ BOTܳaSPOOLǣTHشa˗ǣYARNaSAFETY ؁aTEDDY BΛãOMbASӍaRֱǢǵ׳a˙ǣSOAPaSPֽEaصEIPTaNAZAR AMULETaռ ̤Ӗoبoٜo˯oӜo׭aޯ̦Јɧa˲̦Јɧaռ ̦Јɧaޯ̥ٞmب ٞmٜ ٞm˯ ٞmӜ ٞm׭ ٞa˲̥ٞmب ٞmٜ ٞm˯ ٞmӜ ٞm׭ ٞaռ ̥ٞoب ٞoٜ ٞo˯ ٞoӜ ٞo׭ ٞaޯֻ̦ Tќɧa˲ֻ̦ Tќɧaռ ֻ̦ Tќɧaޯ̤ݓӖtبtٜt˯tӜt׭a˲̤ݓӖtبtٜt˯tӜt׭aռ ̤ݓӖvبvٜv˯vӜv׭aޯ̦ݟ ݘɧa˲̦ݟ ݘɧaռ ̦ݟ ݘɧaޯ̥ٝݠmب ٝݠmٜ ٝݠm˯ ٝݠg̦ݠm׭ ٝݠa˲̥ٝݠmب ٝݠmٜ ٝݠm˯ ٝݠg̦ݠm׭ ٝݠaռ ̥ٝݠoب ٝݠoٜ ٝݠo˯ ٝݠi̦ݠo׭ ٝݠaޯ̦ܞǁ FѾƩa˲̦ܞǁ FѾƩaռ ̦ܞǁ FѾƩaޯ̤ςa˲̤ςaռ ̤ςaޯ̤ς ٞa˲̤ς ٞaռ ̤ς ٞaޯ̤Ӝ-بtٜt˯a˲̤Ӝ-بtٜt˯𐀍aXIʮQI ظGEչALmMAմْmEԄʴmѦm̠nANNONmS֫IERi˲GEչALoMAմْoEԄʴoѦo̠pANNONoS֫IER𐀃a˗ωڕESaַ-׾ SWIMSUITaBهFSaڗSaTHֽ ٳ͜𐀄aDROPǣBL־aADHESҵBʭʉaSܐOS͇EaX-RAYaCRUTCH𐀄aY" ++
  "O-YOaKITEaPAجUTEa˹ՎʮaMAGѳWʭa؁ˆaNψҘDֱS𐀊aٓΟPӫETaCкaRAZORaAXEaDҶ ӧPa˘JOa՚ұ٩HELՏaAC͈DҧaԜD٦aCOINbARײ٩SAWaSCREWDRIލaLADͪaџaMIRRORa޵OWaPLUNМaSEWҘNEEDLEaK֓aBUCӍaMו ݀PaTO׎BRއaцSܵa؄CʾaR֦aMIRROR ˗aIDμFѶ CʾaԣBAT܏YaпSA𐀄aFLYa޺Ma˟ܳaC֦ROACHaPOT܈PLʴaW־aFEAܖaԡa͈ALaγNψaNψȻEGGS𐀆aANˏMѵшaLݵSaPEO؆ HUGGҗbREGNʴ Զj׸a׸ȻC٣𐀋a˶˦هSbELL PEP׳aOLҴaϽBشaTAMʖaЃDUEaTEAPOTaPOUٔLIثDa˞NSaJAR𐀇aMELTҙaSAԫҙaϤׂϡƅтǴզkװKҘϠkͱզaΈԎƳa˰ҘԓbUB˵S𐀉aтȻґϳƅܤ͌EDaِтaӾтaןM ΎтfݺтaҐǽAT ܔVIEWERaш тS𐀊aBL֦ SϜʴ-1o2o12o3o13o23oɴo4o14o24oɶo34oɷoɸoɵo5o15o25o125o35o235oɴ5o45o145o245oɶ5oɹo1ɹo2ɹoɵ5o6o16o26o126o36o136o236oɴ6o46o146p246o346oɷ6oɸ6oɵ6o56o156o256o1256oɻo1ɻo2ɻo12ɻoɼo1ɼo2ɼo12ɼoɺo1ɺo2ɺaԥӲƝ ͱԥՓӸ̜ĵى!ހՓӸ̜ĵى)Ӹ̜gىƝ ͱހՓӹ̜Ķى#ԥՓӹ̜Ķى+ӹ̜+ՓӹՖ+̜ȯՖ+ӸՖ+̝ހՖ+ӹՖ+̝ހىgӲƝ ͱހ̝ހՖ)ӹՖ)̜ȯՖ)ӸՖ)̜ȯى)ՓӸՖaހىƝ ͱԥՓӸ̜Ķى#ހՓӸ̜Ķى+Ӹ̜gӲƝ ͱހՓӹ̜ĵى!ԥՓӹ̜ĵى)ӹ̜)ՓӹՖ)̜ȯՖ)ӸՖ)̝ހՖ)ӹՖ)̝ހىgىƝ ͱހ̝ހՖ+ӹՖ+̜ȯՖ+ӸՖ+̜ȯى+ՓӸՖfƑƎ݆ܢƝaӲƎʭ ي݆ܢƝaUP׳ƌƎ݆ܢƝaӲƅUP׳ƒ݆ܢƝfּ݆Ɲaހּ݆Ɲaيּ݆Ɲaԥּ݆Ɲaޏֹ-2!3!4!5!6!7aѢֹ-2$3$4$5$6$7aӲƎֹjހֹaىƅހֹkԥֹaUP׳ƎֹaѢֹ-1358aހּƝgܟΩgFҵΩgܢƝgSϕΩaيּƝgܟΩgFҵΩgܢƝgSϕΩaӴՆaً ՆaހнՆaԥнՆaҤՆaހмƝƎнҤՆlҤՆƎмƝ𐀂aӴҤՆƅًƝa̢τ˷ ϯaҤ̢τ˷ ϯaыѢϯaހӷԦϯgىȯӳϯfƎ݆мƝaӲƒ݆мƝaށ݆Նgي݆ՆaԦ݆Նgӳ݆Նa˽ DRAWҗS Ԍͱހ̝ՓӲ^Ֆ$ՓӸ̜:ىȯ̜$ހ̝ՓӸ̜^Ֆȯ̜$ՓӸ̝Ֆ]ހ̝Ֆ$ހ̝ՓӲƅՖȯ̜^ՖƅՓӸ̜ĸȯ̝ՓӲĳӸ̝Ֆ$Փӹ̝Ֆȯ̜:ىȭހ̝ՓӸ̜$ʹtѡȻޒaˀцɬEDǺҠaҤ̢ǔaӴ٧NҘԶaً ٧NҘԶaҤΓƗܲӽaӿƅUP׳ƎֹaّƅUP׳ƎֹaΕƒֹaޅƒֹa" ++
  "ӴFְaً FְaVOIDΟбaيׂ۔Ƭaնͱ͌sՖȯ̜sʹaޯыٰȻ٢͉Saӳܜ ޯىȀaՓܜ ޯىȀaيܜ ޯىȀaն۔ تaSܧ ϭmȻARMSȄҫDnLEANҘӲvىmȻDRχaޯݾ̡Vٛ𐀦aSEGՌ܈͸qַqݙrѨqЊrҴqګrϔqΥqք󐐈aLʮUʉȟG𐀟aTAGȖeϛdȃe֛e΂e״eʨfؐeӵeٌe˅e؈e̼eѮ-՝eВeۈe͸kַkݙlѨkЊlҴkګlϔkΥkքe̷eڂeԅȑeπeЯȑeتe̾eӮ̑zBzCzDzEzFzGzHzIzJzKzLzMzNzOzPzQzRzSzTzUzVzWzXzYzZeӳۓeقeيۓe̲ƄeԤeЭeӯAxBxCxDxExFxGxHxIxJxKxLxMxNxOxPxQxRxSxTxUxVxWxXxYxZeӳ͔eޑeي͔eܪa̋ȟG𐂁aދ-17u8u9t20u1u2u3u4u5u6u7u8u9t30u1u2u3u4u5u6u7u8u9t40u1u2u3u4u5u6u7u8u9t50u1u2u3u4u5u6u7u8u9t60u1u2u3u4u5u6u7u8u9t70u1u2u3u4u5u6u7u8u9t80u1u2u3u4u5u6u7u8u9t90u1u2u3u4u5u6u7u8u9t100v1v2v3v4v5v6v7v8v9u10v1v2v3v4v5v6v7v8v9u20v1v2v3v4v5v6v7v8v9u30v1v2v3v4v5v6v7v8v9u40v1v2v3v4v5v6v7v8v9u50v1v2v3v4v5v6v7v8v9u60v1v2v3v4v5v6v7v8v9u70v1v2v3v4v5v6v7v8v9u80v1v2v3v4v5v6v7v8v9u90v1v2v3v4v5v6v7v8v9t200v1v2v3v4v5v6v7v8v9u10v1v2v3v4v5v6v7v8v9u20v1v2v3v4v5v6v7v8v9u30v1v2v3v4v5v6v7v8v9u40v1v2v3v4v5v6v7v8v9u50v1v2v3v4v5v6"

/-- The names of the characters, front-coded in code-point order (see the module's description). -/
def nameData : String :=
  String.join [namePart0, namePart1, namePart2, namePart3, namePart4, namePart5, namePart6,
    namePart7, namePart8]

/-- Aliases of characters (corrections, control names, abbreviations), front-coded in code-point
order like `nameData`. -/
def aliasData : String :=
  "𐀀aNݯ𐀀da۞цҗ𐀀bOHa۞TϜ𐀀cXaι𐀀bTXaθ݁՟𐀀bOTbNثRY𐀀daA̳𐀀dbLERT𐀀aˢa˕ۍ𐀀bSa̟Ƞ𐀀aѡȠ𐀀bT𐀀a۽aԏϨD𐀀aս Ԏ𐀀aθԎ𐀀aLF𐀀aNL𐀀aEOLaԎȠ𐀀aގȠ𐀀bTaЇ ϨD𐀀bFa̕RIʉȅݒ𐀀bRaڒ ז𐀀aLOCӖ-ڒǯ𐀀aSOaڒ IN𐀀aLOCӖ-ڒ ߙ𐀀aSIaDˆ Ԓ Eٷ𐀀bLEbϘַ𐀀bC1bϘݙ𐀀bC2bϘܞ𐀀bC3bϘЊ𐀀bC4aնA̳𐀀bAKaSYN̫US IDLE𐀀daθ݁՟Ɲ𐀀bTBa̋𐀀daθՄ𐀀bOMaۮ𐀀daEٷ𐀀daҖڄ Њ𐀀aF҅ ڄ𐀀bSaҖڄ ܞ𐀀aGROݺڄ𐀀bSaҖڄȵ𐀀aRE͈D ڄ𐀀bSaҖڄǯ𐀀aUև ڄ𐀀bSaSP𐁟aDάTE𐀀daPADDҘ̟𐀀daіOCTωPREچ𐀀bOPa˾ ׳MIT܈ѐE𐀀bPHa֌˾ ѐE𐀀bBHaҐ𐀀daNϜ Ԏ𐀀cLa۞Sά͐𐀀bSAaθSά͐𐀀bSAa̟Ƞ چ𐀀aѡȠ چ𐀀bTSa̟ȠȻJUۣFѶ𐀀aѡȠȻJUۣFѶ𐀀bTJaԎȠ چ𐀀aގȠ چ𐀀bTSa׫ѰԏЉ𐀀n΍𐀀bLDa׫Ѱԏ˕Wʾ𐀀nUP𐀀bLUaف ԏϨD𐀀iҐ𐀀bIaڧڒȵ𐀀g-ڒ-2𐀀bS2aڧڒ ܞ𐀀g-ڒ-3𐀀bS3aDϘSTٓ𐀀bCSaPRIVˉUSEǯ𐀀l-1𐀀bU1bRIVˉUSEȵ𐀀l-2𐀀bU2aSω݁MIT STˈ𐀀bTSa̋ ̟𐀀bCHaMχʉȸIܰ𐀀bWa۞гΟAس𐀀jؚTE͐𐀀bPAaθгΟAس𐀀hؚTE͐𐀀bPAa۞STٓ𐀀bOSaڧЫѳ̟ ң𐀀bGCaڧ̟ ң𐀀bCIà݉LȏQUε ң𐀀bSIaSTٔ܏՜Aܾ𐀀caO׳ATҘSY۠ ̼ND𐀀bSCaPRIVACY Mχʉ𐀀bMaAPPLѶ PR֨ ̼ND𐀀cCaNBSP𐀍aSHY𐃵aӮ̐НgںН𐆬aCGJ𐋍aALM𐃭aۻțBԐ̸Ӳ𐗕aKA֋DAǌLԘ𐆿aLAOǌFO Ѓ𐀂pAY𐀄lRO𐀂lLO𐄫aTI˨N ԺBӁGIǘ𐈜aуJֽڃߊɨ!ۘrۗߊrߊ-ӕ𐘜aFVS1d2d3aMVSaFVS4𐟼aZWSPcNJcJaLRMaRLM𐀛aLREaRLEaPDFaLROaRLOaNNBSP𐀰aMMSPaWJ𐀆aLRIaRLIaFSIaPDI𐂯aWEIERۦ˄ ELԓܦГ𐌰aMICRǬUSȞeƧȞ𐜱aӽȳΊޒ𐀂aُȳΊޒ𗒙aYI ۸ҳǔ𐩙aM޿ԹǌӓԘ𕎒aVS1c2c3c4c5c6c7c8c9c10d1d2d3d4d5d6𐀉aؘޏٍԃƞ𐃧aBYTE ORͪǔ𐀀bOM𐀀aZWNBSP𒏕aCUNEIЇȒNU11ȥtǴNU11 ̇Ǵ̇𔮁aՁEFAIDْ ̐H#NG𐀟mںHzNG𔆊aHλAIGʪǌE-1𒃄aBYZʴҔ լ ۺБ ڰֵVAڪ󓀻aVS17d8d9c20d1d2d3d4d5d6d7d8d9c30d1d2d3d4d5d6d7d8d9c40d1d2d3d4d5d6d7d8d9c50d1d2" ++
  "d3d4d5d6d7d8d9c60d1d2d3d4d5d6d7d8d9c70d1d2d3d4d5d6d7d8d9c80d1d2d3d4d5d6d7d8d9c90d1d2d3d4d5d6d7d8d9c100e1e2e3e4e5e6e7e8e9d10e1e2e3e4e5e6e7e8e9d20e1e2e3e4e5e6e7e8e9d30e1e2e3e4e5e6e7e8e9d40e1e2e3e4e5e6e7e8e9d50e1e2e3e4e5e6e7e8e9d60e1e2e3e4e5e6e7e8e9d70e1e2e3e4e5e6e7e8e9d80e1e2e3e4e5e6e7e8e9d90e1e2e3e4e5e6e7e8e9c200e1e2e3e4e5e6e7e8e9d10e1e2e3e4e5e6e7e8e9d20e1e2e3e4e5e6e7e8e9d30e1e2e3e4e5e6e7e8e9d40e1e2e3e4e5e6e7e8e9d50e1e2e3e4e5e6"

/-- The common pieces of names, one character each, comma-separated, front-coded against the one
before (`a` for no shared prefix). -/
def nameWordData : String :=
  "a -KHYIL,bABOVE,g ,hSLANTED EQUAL,cCCENT,cND ,fACUTE,fDOT ABOVE,jBELOW,fGRAVE,fHOOK ABOVE,hRIZONTAL,fLEFT,j ,gOWER ,fMACRON,fPROSGEGRAMMENI,fRIGHT,k ,fTILDE,fYPOGEGRAMMENI,cRCHAION,dROW,g WITH ,gHEAD,cT ,bBAR,eB ARROW,cELOW,cLOCK,cRACKET,cUBBLE,dT NOT,bCA,cIRCLE,cL,dEF,cOMPRESSED,cRESCENTS,bDASH,cE,dGREES,cIGRAPH,cODEKATA,dT,e PUNCTUATION,eS ABOVE,dUBLE ARROW,bEQUAL TO,eIVALENT TO,bFA,dCE,cINAL FORM,cOR ,fODD ,cROM,f BAR,bGAD OVER GAD,dR OVER GAR,cUNU,bHA,dRPOON,i WITH BARB ,cITTING ,jCHEST,cUNDRED,bICHOS,cN ,dDICATOR,dITIAL FORM,cSOLATED FORM,bKA,dREN ,dTO,cOET,bLE,dTTER ,iA,iE WITH ,iKA,iO WITH ,iU WITH ,cONSUM,bMA,dRK,cE,dDIAL FORM,dMBER,cGO RGYAN,cU,dRDA,bNA,cEO,cO,dT,eE,fHEAD,bOCLOCK,cF,d ,eANTIMONY,eBAMBOOS,eCHARACTERS,fIRCLES,fLUBS,eDIAMONDS,eHEARTS,eSPADES,cN ,eLEFT,eRIGHT,dE,cPERATOR,cR ,eSLANTED EQUAL TO,dNAMENT,cVER ,bPA,dIRED ARROWS,cLASTICS,dUS ,gASH,cO,dINTED ,jBLACK STAR,gING ,kBACKHAND INDEX,lUD,kINDEX,cRODUCT,eSTAYA,bQUOTATION MARK,bRA,cE,dST,cO,dC,dTUNDA,cTAGS,bS KHOKHLOM ON ,eRYZHEM,cASAK,dTANGA,cE,cHAFT,cIGN,f ,dNGLE,cMALL,cOUND,cPACE,dOKED ASTERISK,cTATERS,dROKE,h OVERLAY,cU,dBUNIT,dIT,cYMBOL,bTA,dBULATION,dCK,dLENTS,cE,dDUNG,dNU,cHOUSAND,dROUGH ,cI,dMES ,hA,iS" ++
  "H,cO,d ,eBAR,eLOWER ,dGETHER,cRIANGLE-HEADED,q ARROW,w WITH ,cWELFTHS,dO,bUP,bVARIANT FORM,bWA,cHITE,g ARROW,cITH ,gACUTE,gCARON,hEDILLA,hIRCUMFLEX,hROSSED-TAIL,hURL,gDAGESH,hESCENDER,hIAERESIS,jGONAL STROKE,hOT,j ABOVE,kBELOW,gHAH,hOOK,gJEEM,k INITIAL FORM,mSOLATED FORM,gLEFT ,hINE BELOW,hONG LEG,gMEEM,hIDDLE TILDE,gOBLIQUE STROKE,hRNAMENT,gPALATAL HOOK,hSILI,gREH,iTROFLEX HOOK,gSERIF,hTROKE,gTAIL,hONOS,gVARIA,hRACHY,gYEH FINAL FORM,fIN,bYUS,a-00,bCREE ,bEVIL MONKEY,bFACING ,cEATHERED ,cIVE DEGREES,bKIYEOK,bLIGHTED ,dNE STAFF,bPILLA,bSHAP,cIOS,cPOKED ASTERISK,bTHIRTY,cILTED SHADOWED WHITE ,cO-,bVAS,a001,a123,d4,c4,b34,a234,a345,d6,b56,a456,a5678,b78,a678,aA WITH ,hBREVE,bAI,bBBREVIATION,m SIGN,cKHASIAN ,bCUTE,f ACCENT,bDE,bGE,cON,bI ,cL,cN,cR,dPLANE,bKE,bL ,dCLICK,dSIGN,cA,dYH,cE,dF,e MAKSURA,m FINAL FORM,nISOLATED FORM,fWITH ,cI,d ,eGALI ,cL,dA,cMOST EQUAL TO,cPAPRAANA ,dHA,cTERNATE ,iING,bMA,cE,cPERSAND,bN ,cA,dDIAN SYLLABI,cC,cD,cG,d ,dLE,f ,gBRACKET,cO,cT,dA,dI,eCLOCKWISE,cUSVARA,bP ,bRA,dBIC,cC ,dHAIC ,cD,cMENIAN ,cROW,bS-SALAA,cE,cH,cS,cTERISK,bTA,cCH,cE,d ,cH,dA,cI,dON,f MARK,cO,cTACHED ,bVAGRAHA,bYA,dNNA,cIN,aBACK,cD,cLL,cN,cR,dB ,dRED ,cS,cTBEIT ,bEA,cE,cGIN ,cH,cL,dOW,dT" ++
  ",cNT,cR,cSIDE ,cTA,dH,dWEEN,bHA,bICYCL,cG YUS,cRGA,cSHOP,cT,bLACK,f ,gARROW,gSQUARE,cE,cUE,bOARD,cLD ,cO,cTTOM,g ,cW,cX,bREAK,eTHY ,dVE,eIS,cIDGE,cO,dKEN,bUILDING,cLLET,cR,cT,bY ,aC-SIMPLIFIED ,bANCEL,dDRA,gBINDU,cPITAL,h ,iLETTER ,pA,pE,pO WITH ,pU WITH ,cR,dON,dRIER ,cT,bEDILLA,cILING,cNTRALIZATION,fE,g TO ,bHA,dRACTER,eIOT,cE,dCK,dD ,dSS ,gKING ,hNIGHT ROTATED ,cI,cO,cRISTMAS,eVI,dONO,bIEUC,cRCLE,g ,hARROW,gD ,eULAR ,fMFLEX,bKNOWLEDGE,bLOCKWISE,dS,eED ,bOLON,f SKEWED ,cM,dBINING,j ,dMA,f QUOTATION MARK ORNAMENT,eERCIAL AT,dPUTER,cN,dJOINED,dSONANT,j SIGN ,dTACT,fIN,hING ,cP,cR,dNER,bRESCENT,cO,dSS,fED ,fING ,cYPTOGRAMMIC,bTED AREA,bUATRILLO,cLAR ,cRLY,f BRACKET,dVE,fD ,cS,bYRILLIC,aDAD,cG,dESH,cL,dETH,cMMA,cNDA,cSIA,f AND OXIA,kPERISPOMENI,kVARIA,bDA,bECIMAL ,cE,cL,dTA,cNT,cR,cS,dCENDER,bHA,bIA,dERESIS,dGONAL,i ,dLECT-P ,eYTIKA,dMOND,cGA ,dIT ,gONE,gZERO,cPLI,cRECT,cS,dH,cVI,eDER,eSION,bJERV,bOES NOT ,cLLAR SIGN,cT,d ABOVE,eBELOW,dLESS ,dTED,g ,cUBLE,g ,hGRAVE,g-STRUCK ,cWN,e ,fHEAVY,fLIGHT,fTACK,e-POINTING ,eWARDS,j ,kARROW,bRACHMA,dGON,bZA,aE WITH ,hDESCENDER,bAR,dTH,cT,bCT,bD ,dARROW,dFACE,bEE,cN,bH WITH ,bIGHT,f ,fEEN,fH,gS BLOCK,fY,bLA,cE,dMENT OF,dVEN,cI,cLIPS,gIS,cO,bMPTY" ++
  " ,bN ,cCE,dLOSU,cD,d OF ,hTEXT,cG,cT,dI,cVELOPE,bPSILON,bQUAL,fS SIGN,dENTIAL,dIHOPPER,eLATERAL ARROWHEAD,bR ,bSH,d2,cS,cT,bT ,cA,cH,dIOPIC ,cROFLEX CLICK,cTE,bUAE,cM,cRO,cT,cX,bVEN,e ,eTEEN,fY,cICE CONTROL ,cMA,bXCLAMATION,l MARK,cT,dENDED ARABIC-INDIC DIGIT,fSION,dRA-,bYE,dS,bZH,aFACE,e WITH ,cLLING ,cRSI ,cTHATAN,bEE,cH,cMALE,bIFTH,eY,cGURE,cLI,dL,eER,cNAL ,gFORM,dGER,gS,cRE,dST,cSH,dT ,cVE,e FINGERS SPREAD,cXED,bLAG,dT,cOOR,fPLANE ,dR,dURISH,dWER,bON,dIAS,cOT,cR,dM,dTY,dWARD,cUR,e ,fDOTS,eTEEN,fH,bRACTION ,cONT WALL,bTHORA,bULL STOP,cNCTION,aGAL,cMMA,cN,d2 TENU,dGIA,cR,bEMIN,cORGIAN ,cR,bHA,dIN,cE,bIMEL,cSH,bLAGOLI,dSS,cOTTAL ,iSTOP,bOMUKHA,cRAZDO ,dGON,bRA,dM,dPH,dVE,f ACCENT,cEAT,fER-THAN,dEK ,gCROSS,eN ,bUARD,bYPTOLOGICAL ,aHAA,cH,d INITIAL FORM,fSOLATED FORM,eWITH ,cIR,cL,dF,e ,fBLACK,cM,dZA,f ABOVE,cND,dGUL ,cR,dD SIGN,bEAD,e MARK,dRT,dVEN,eY,f ,gBARB ARROW,cE,dL,cH,cR,cTH,bHA,bIEROGLY,dUCH,eH,cGH ,e-,cNGE ,fD,cRAGANA,dTEEN,eY,bKA,bOO,dK,cR,dIZONTAL,k ,lBAR,lSTROKE,dN,dSE,cU,bREE,bTA,bUMP,cNDRED,cR,bWE,bYPHEN,aI WITH ,bAL ,cN ,eLETTER A,bC ,cAL,e ,dTION,cE,cK,bDE,dOGRAPH,jIC ,bEE,cUNG,bFTEEN,dY,bGHT,cI,d GUNU,bHVAMULIYA,bKOLSBURG ,bLE,cHOUETTE,cL,bMA,dGE,cOU,cPLIFIED ,bNAL" ++
  ",cCREASE,cD,dEPENDENT SVARITA,eX,f ,gMIDDLE ,gTHUMB ,cE,cFINITY,dORMATION ,cG,d ,eFACE,eHAND,cITIAL ,iFORM,cSIDE,dULAR ,cTEGRAL,eR,fROBANG,fSECTION,dRODUCER,cVERSE ,fTED ,jBREVE,bON,cTA,dIFIED ,bRI,bSE,cH,cMA,cOLATE,dSCELES ,cT,bTA,dLIC CAPITAL ,cERATION,bVE,d ,bYA,bZED ,aJACK,cPANESE,bEEM,e WITH ,bHA,bOIN,eER,cKER,aK UNIFIED ,bA- SHOG ,cA,cF,cK,cN,cPH,dPA,dYEOUN,iPIEUP,cSKAL,dRA,cTAKANA,bET,cY,bFONITIKON,bHA,dH,e INITIAL FORM,dMTI ,cEI,cIEUKH,bING,cRGHIZ ,cSIM5,dS,cYEOK,bNIFE,dGHT,bOMI ,cPPA,bRYZH,bUR,aL WITH ,bAB,cG,dAB TIMES ,eR,cK,cM,d WITH ,dDA,dEDH,cN,cRGE,f ,cTIN ,gSMALL LETTER ,eON,bEAF,cFT,e ,fHALF ,fPARENTHESIS,fRIGHT,fTO ,iLOWER ,iUPPER ,fWHITE ,e-POINTING ,fSTEM TONE BAR,eWARDS,j ,kARROW,cG,cNGTH,g MARK,dTICULAR,cPH,cSS-THAN,cTTER ,hSMALL CAPITAL ,cVEL ,bHA,bIGATURE ,dHT,f ,cM,cNE,e ,eAR ,dG,dK,cP,cT,dTLE,g YUS,bJUDIJE,bLA,bOGICAL ,iAND,cNG,e ,e-BRANCH-,cO,dP,cPPY DISK,cTUS,cW,d ,eLINE,dER ,gRIGHT ,cZENGE,bTERNATIVE ,bUM,cNATE SIGMA SYMBOL,cT,bYUCHEVAYA,aM CUBED,bACRON,cDDA,cE,cHAAPRAANA ,ePRANA,cI ,cLE SIGN,dO POVYSHE,cN,d ,dCHU ,cR,dK ,cTHEMATICAL,bBA,cE,cU,bCHU CAN,bEASUR,cD,dIAL ,hFORM,eUM,g ,hSHADE,cEM,e FINAL FORM,fINITIAL FORM,gSOLATED FORM,cM,cN,dT,cR,cT,bGB,bID" ++
  " ,dDLE,g ,hDOT,hHOOK,hRIGHT,hUP,g-WELSH ,cEUM,cL,dLIONS,cN,dUS,f SIGN,cSSION,bOBILE PH,cDIFIER,i LETTER ,cN,dO,cON,cUTH,cVEMENT,i-WALLPLANE ,bULTIPLE,hICATION,cOY,cSICAL,bYSLITE,aN-ARY,bABLA,cR,cSKAPI ,cYA,bCE,bDA,cO,bEGATIVE ,cITHER ,cPOSTOYANNAYA,cR,cS,dS,cUTRAL,cW,bGA,cG,dU,cK,cO,bIEUN,cNE,eTEEN,fY,cT,cZKO,bJA,cE,bNA,bO ,cON,cRMAL SUBGROUP,dTH,f EAST,k ARROW,gWEST,cT,d ,dCHED ,cW,bUKTA,cMBER,g ,hONE,hSIGN,hTEN,dER,fAL ONE,cN,bYA,cI,aO SUNG,b-1,bAT,bBLIQUE ,bCK,bGONEK,cRAM,f B1,bJIBWAY ,bLD,d ,eCOPTIC ,eNUBIAN ,eTAMIL ,dER,cL,bMEGA,cICRON,bN ,dCHROMA ,cCOMING ,cE,d ,eEIGHTH BLOCK,eHALF,fUNDRED,eQUARTER,cG,bOD,cK,cN,bPEN,e ,fE,cPOSING ,bR EQUAL TO,cE,cIGINAL,cKHON ,hA,cT,bS ,dICHOS,bT ,cH,bUBLE ,gDANDA,cN,dTAIN,cR,cS ,dE,cT,dLINED ,bVE,dR,eBAR,eLA,gY,fINE,bXIA,aPAL,dATAL ,cNSIOS,cP,d PLUS LU3,cR,dA,eGRAPH,eKALESMA,eLLEL,dENTHES,jIS,dT,eIAL DIFFERENTIAL,cWN,bEA,cDESTRIAN,cE,cN,dT,cR,dCENT SIGN,dFECTA,dISPOMENI,dSET,eON,cS,bHA,cI,dEUPH,cO,bIECE,dUP,cI,cN,dG,dWHEEL ,bLA,dCE,cE,cUS,e SIGN,bODCHASHIE,cINT,fING ,cL,cN,cSITION,dT,eROPHE,cVODNAYA,dYSHE,cWERS OF FOUR,bPED ,cROXIMATE,bRECED,gES,dSENTATION FORM FOR ,cIME,cO,dSGEGRAMMENI,bSI,dLI,f AND OXIA,kPERISPOMENI,kVARIA,bUNCTUATION,aQAF" ++
  ",bOPH,bUAD,eRANT,fUPLE,dRTER,cEEN,dSTION,i MARK,cI,aRACH,cE,cIN,dSED ,hKNUCKLE,cM,cNGE ,bEA,dD,cC,dTANGLE,cD,d ,cE,cH,cMELY HEAVY ,cN,cPETITION MARK,cS,dH,cTROFLEX HOOK,cVERSE,h SOLIDUS,hD ,bGOSYNTHETON,bHO,bIBBON,cE,dUL,cGHT,f ,gHALF,gPARENTHESIS,gWHITE ,f-POINTING ,fWARDS,k ,lARROW,cN,dG,e ,fABOVE,fLITTLE,cSHTHAMATRA E,dING ,cT,bLICUE,bON,cOK,cTATED ,iNINETY DEGREES,fION-FLOORPLANE,jWALLPLANE,cUND,fED ,cWN,bRA,bUDIMENTA ,cM,cN,cPEE,bY ,aS AS,cSIGN,bAD,dHE,cL,dT,eIRE,cMEKH,dPI,cN,dS-SERIF,dYAKA ,cYISI ,bCAPE,cHWA,cISSORS,cREEN,dIPT ,bECANT,dOND,dTION,h MARK,cEN,cMI,eCOLON,cONG ,cPARATOR,cR,cT,bHA,dD,eED WHITE ARROW,eOWED ,dN ,dR,cE,dEN,dLL,dSHIG,cI,dFT,dMA,dN,cO,dGI PIECE,dRT,f ,f-TWIG,dULDER HIP,cU,bIDDHAM,dE,eWAYS ,cGMA,dN ,fANUSVARA,fNUKTA,fVIRAMA,cMALUNGUN ,dILAR,cNGLE,g ,cON,dS,cS,cX,d ,dTEEN,hTH,eY,bKLIR,bLANTED,dSH,cEEP,cOAN ,bMA,dLL,f ,gA,hRABIC LETTER TAH,gLETTER ,nA,nD,nE,nO WITH ,nS,nT,nU WITH ,gSQUARE,gV,cILING,h EYES,bNOWFLAKE,bOFT,cLIDUS,cUTH,f EAST,k ARROW,gWEST,bPACE,dRKLE,cEECH,cIR,bQUARE,g ,hBRACKET,gD,dIGGLE ARROW,bSA,dNG,fKIYEOK,fPIEUP,fSIOS,bT QUARTER MOON,cA,dR,eT OF ,cE,dM,dR,eN PWO KAREN ,cI,cO,dP,cR,dA,eIGHT,dOKE,dUCTION,bUBJOINE,dSCRIPT ,eET,eTITUTE,jION," ++
  "cCCEEDS,cM,cN,cPERSCRIPT ,bVARITA,dSTI SIGN,bWASH ,cIRL ,bYLLABLE ,cMBOL,g ,cRIAC,aTAA,cB,cH,cI LAING ,dL,cK4,cN,cR,cTWEE,cU,cW,bEARDROP-SPOKED ,cD ,cH,d MARBUTA,cLEPHONE,j RECEIVER,cN,d THOUSAND,cR,cTH,bHA,dL,cE,d ,dN CURVING ,dR,dSPIAN ,dTA,f SYMBOL,cI,dEUTH,dRD,cO,cREE,f ,gDOTS,k ABOVE,gQUARTERS,cUMB,f ,gSIDE,bIC ,dK,cE,cKEUT,cLDE,f OPERATOR,dE,cMES,dORION,cN,dG,cON,cP ,bLE,bON,dE,e ,fBAR,fMARK,e-,dGUE,dOS,cP ,dBAR,cR,dTOISE SHELL BRACKET,bRA,dNS,cEE,cI,dANGLE,i ARROWHEAD,gULAR ,dPLE,g ,cO,dMIKO,bSA,cE,cHEG,bTA,dVA ALTA,bUG2,cR,dN,eED ,eSTILE,bVRIDO,bWELVE,dNTIETH,fY,cO,d ,eDOTS,i ABOVE,jBELOW,jVERTICALLY,eHUNDRED,l SEVENTY DEGREES,eTHIRDS,d-HEADED ARROW WITH ,bYPE,aU-1,bAE,cREG YA,bBLIMATE,bCH,cK,bDA,dTTA,bKRAINIAN I,cU,bLA,cL,cT,cU,bMBRELLA,bNDER,fBAR,cG,cION,bON,cT,cX,bP ,dHEAVY,dLIGHT,dTACK,c-POINTING ,cADHMANIY,cPER ,gLEFT ,cSILON,cWARDS,h ,iARROW,bRRENCY,bSH,bURDHAJA ,aVAREIA,dIA,fTION SELECTOR,bEDIC ,cR,dTICAL,i ,jBAR,jLINE,jSTROKE,dY ,cTLAYA,bINE LEAF,cRAMA,cSARGA,cYANI,bOCALIC ,iR,cICED ,hSOUND MARK,cLAPUK ,cWEL,f ,gSIGN ,lAA,bYKA,cSOKO,aWAA,cLLPLANE ,cTER,cVE,dY ,cW,cY ,eLEFT WAY TRAFFIC,bENTY,cST,e-CREE ,bHITE ,gCIRCLE,gSQUARE,bIDTH,cGGLY ,cI,cND,cTH,eOUT ,bOMAN,cO,cR" ++
  ",dD ,bRINKLE,dST FLEX,aY WITH ,bAN,dNA,dUKITTA,bEE,cH,d FINAL FORM,eISOLATED FORM,cNISEI ,iA,cORINHIEUH,cRU,cSIEUNG,bFESIS,bIG MGO,bNAGMA,bOD,dH,cO,bPOGEGRAMMENI,aZ NOTATION ,bAH,cIN,cPYATAYA,gOY,cYIN,bEN,cRO,cTA,bHA,cE,cI,bIGZAG"

/-- The common pieces of names, the `i`-th written as the character `U+0180 + i`. -/
def nameWords : Array String :=
  ((nameWordData.splitOn ",").foldl (fun (out : Array String × List Char) e =>
    let w := match e.toList with
      | k :: rest => out.2.take (k.toNat - 'a'.toNat) ++ rest
      | [] => []
    (out.1.push (String.ofList w), w)) (#[], [])).1

def prefixCounters : List Char :=
  "abcdefghijklmnopqrstuvwxyz!#$%&()+.:;<=>?@[]^_|~".toList

/-- Whether a character of the coded names spells part of a name: a capital, digit, blank, `-` or
piece of `nameWords`. -/
def spells (c : Char) : Bool :=
  ('A' ≤ c && c ≤ 'Z') || ('0' ≤ c && c ≤ '9') || c == ' ' || c == '-' ||
    (0x180 ≤ c.toNat && c.toNat < 0x10000)

def spelled (c : Char) : List Char :=
  if c.toNat ≥ 0x180 then (nameWords.getD (c.toNat - 0x180) "").toList else [c]

def prefixCount (c : Char) : Nat :=
  if c.toNat < 0x80 then prefixCounters.idxOf c else c.toNat - 0x100

/-- Walks the front-coded entries in `cs` from the previous code point and name to the code point
named `target`. -/
def findName (target : List Char) : Nat → List Char → Nat → List Char → Option Nat
  | 0, _, _, _ => none
  | fuel + 1, cs, prev, prevName =>
    let (gap, cs) := match cs with
      | m :: rest => if m.toNat ≥ 0x10000 then (m.toNat - 0x10000, rest) else (1, cs)
      | [] => (1, [])
    match cs with
    | k :: rest =>
      let suffix := rest.takeWhile spells
      let name := prevName.take (prefixCount k) ++ suffix.flatMap spelled
      let cp := prev + gap
      if name == target then some cp
      else findName target fuel (rest.drop suffix.length) cp name
    | [] => none

def asciiUpper (s : String) : List Char :=
  s.toList.map fun c => if 'a' ≤ c && c ≤ 'z' then Char.ofNat (c.toNat - 32) else c

def jamoLeads : List String :=
  ["G", "GG", "N", "D", "DD", "R", "M", "B", "BB", "S", "SS", "", "J", "JJ", "C", "K", "T", "P", "H"]

def jamoVowels : List String :=
  ["A", "AE", "YA", "YAE", "EO", "E", "YEO", "YE", "O", "WA", "WAE", "OE", "YO", "U", "WEO", "WE",
    "WI", "YU", "EU", "YI", "I"]

def jamoTails : List String :=
  ["", "G", "GG", "GS", "N", "NJ", "NH", "D", "L", "LG", "LM", "LB", "LS", "LT", "LP", "LH", "M",
    "B", "BS", "S", "SS", "NG", "J", "C", "K", "T", "P", "H"]

def longestJamo (names : List String) (cs : List Char) : Option (Nat × List Char) :=
  let hits := names.zipIdx.filter fun (n, _) => n.toList.isPrefixOf cs
  match hits.foldl (fun (best : Option (String × Nat)) (n, i) =>
      match best with
      | some (b, _) => if n.length > b.length then some (n, i) else best
      | none => some (n, i)) none with
  | some (n, i) => some (i, cs.drop n.length)
  | none => none

def hangulOf? (cs : List Char) : Option Char := do
  let (l, cs) ← longestJamo jamoLeads cs
  let (v, cs) ← longestJamo jamoVowels cs
  let (t, cs) ← longestJamo jamoTails cs
  if cs.isEmpty then some (Char.ofNat (0xAC00 + (l * 21 + v) * 28 + t)) else none

/-- The ranges of the unified ideographs (Unicode 14.0.0). -/
def unifiedIdeographs : List (Nat × Nat) :=
  [(0x3400, 0x4DBF), (0x4E00, 0x9FFF), (0x20000, 0x2A6DF), (0x2A700, 0x2B738), (0x2B740, 0x2B81D),
    (0x2B820, 0x2CEA1), (0x2CEB0, 0x2EBE0), (0x30000, 0x3134A)]

def upperHexDigit? (c : Char) : Option Nat :=
  if '0' ≤ c && c ≤ '9' then some (c.toNat - '0'.toNat)
  else if 'A' ≤ c && c ≤ 'F' then some (c.toNat - 'A'.toNat + 10) else none

def ideographOf? (cs : List Char) : Option Char :=
  if cs.length != 4 && cs.length != 5 then none
  else do
    let ds ← cs.mapM upperHexDigit?
    let v := ds.foldl (fun n d => 16 * n + d) 0
    if unifiedIdeographs.any fun (lo, hi) => lo ≤ v && v ≤ hi then some (Char.ofNat v) else none

/-- The families named by a prefix and the hexadecimal code point, with their ranges (Unicode
14.0.0). -/
def numberedNames : List (String × List (Nat × Nat)) :=
  [("CJK COMPATIBILITY IDEOGRAPH-", [(0xF900, 0xFA6D), (0xFA70, 0xFAD9), (0x2F800, 0x2FA1D)]),
    ("KHITAN SMALL SCRIPT CHARACTER-", [(0x18B00, 0x18CD5)]), ("NUSHU CHARACTER-", [(0x1B170, 0x1B2FB)])]

/-- The character of a numbered family, or the Braille pattern of dots `1` to `8`, that a
capitalized name names. -/
def numberedOf? (upper : List Char) : Option Char :=
  let braille := "BRAILLE PATTERN DOTS-".toList
  if braille.isPrefixOf upper then
    let ds := (upper.drop braille.length).map fun c => c.toNat - '0'.toNat
    let ordered := ds.zip ds.tail |>.all fun (a, b) => a < b
    if !ds.isEmpty && ordered && ds.all (fun d => 1 ≤ d && d ≤ 8) then
      some (Char.ofNat (ds.foldl (fun v d => v + Nat.pow 2 (d - 1)) 0x2800))
    else none
  else
    numberedNames.findSome? fun (pre, ranges) => do
      let cs := upper.drop pre.length
      if !pre.toList.isPrefixOf upper then none
      let v := (← cs.mapM upperHexDigit?).foldl (fun n d => 16 * n + d) 0
      if cs.length == (if v < 0x10000 then 4 else 5) && ranges.any fun (lo, hi) => lo ≤ v && v ≤ hi
      then some (Char.ofNat v) else none

def charOfName? (name : String) : Option Char :=
  let upper := asciiUpper name
  let syllable := "HANGUL SYLLABLE ".toList
  let ideograph := "CJK UNIFIED IDEOGRAPH-".toList
  if syllable.isPrefixOf upper then hangulOf? (name.toList.drop syllable.length)
  else if ideograph.isPrefixOf upper then ideographOf? (name.toList.drop ideograph.length)
  else
    let look (data : String) : Option Char :=
      let cs := data.toList
      (findName upper (cs.length + 1) cs 0 []).map Char.ofNat
    ((numberedOf? upper).orElse fun _ => look nameData).orElse fun _ => look aliasData

end PipeQuery.Text
